import CudaTrace.Decode.Remote

/-!
# Driver interface (decode/nvidia.rs)

The escape numbers of the resource manager and the structures of its header
files.
-/

namespace CudaTrace.Decode
open CudaTrace.Base
open CudaTrace.Ptrace (U32 U64 I32 I64)

def nvIoctlMagic : U8 := 0x46

/-! ### Escape numbers -/

@[match_pattern] abbrev nvEscCardInfo : ℕ := 200
@[match_pattern] abbrev nvEscRegisterFd : ℕ := 201
@[match_pattern] abbrev nvEscAllocOsEvent : ℕ := 206
@[match_pattern] abbrev nvEscFreeOsEvent : ℕ := 207
@[match_pattern] abbrev nvEscStatusCode : ℕ := 209
@[match_pattern] abbrev nvEscCheckVersionStr : ℕ := 210
@[match_pattern] abbrev nvEscIoctlXferCmd : ℕ := 211
@[match_pattern] abbrev nvEscAttachGpusToFd : ℕ := 212
@[match_pattern] abbrev nvEscQueryDeviceIntr : ℕ := 213
@[match_pattern] abbrev nvEscSysParams : ℕ := 214
@[match_pattern] abbrev nvEscNumaInfo : ℕ := 215
@[match_pattern] abbrev nvEscSetNumaStatus : ℕ := 216
@[match_pattern] abbrev nvEscExportToDmabufFd : ℕ := 217
@[match_pattern] abbrev nvEscWaitOpenComplete : ℕ := 218
@[match_pattern] abbrev nvEscRmAllocMemory : ℕ := 0x27
@[match_pattern] abbrev nvEscRmAllocObject : ℕ := 0x28
@[match_pattern] abbrev nvEscRmFree : ℕ := 0x29
@[match_pattern] abbrev nvEscRmControl : ℕ := 0x2a
@[match_pattern] abbrev nvEscRmAlloc : ℕ := 0x2b
@[match_pattern] abbrev nvEscRmConfigGet : ℕ := 0x32
@[match_pattern] abbrev nvEscRmConfigSet : ℕ := 0x33
@[match_pattern] abbrev nvEscRmDupObject : ℕ := 0x34
@[match_pattern] abbrev nvEscRmShare : ℕ := 0x35
@[match_pattern] abbrev nvEscRmConfigGetEx : ℕ := 0x37
@[match_pattern] abbrev nvEscRmConfigSetEx : ℕ := 0x38
@[match_pattern] abbrev nvEscRmI2cAccess : ℕ := 0x39
@[match_pattern] abbrev nvEscRmIdleChannels : ℕ := 0x41
@[match_pattern] abbrev nvEscRmVidHeapControl : ℕ := 0x4a
@[match_pattern] abbrev nvEscRmAccessRegistry : ℕ := 0x4d
@[match_pattern] abbrev nvEscRmMapMemory : ℕ := 0x4e
@[match_pattern] abbrev nvEscRmUnmapMemory : ℕ := 0x4f
@[match_pattern] abbrev nvEscRmGetEventData : ℕ := 0x52
@[match_pattern] abbrev nvEscRmAllocContextDma2 : ℕ := 0x54
@[match_pattern] abbrev nvEscRmAddVblankCallback : ℕ := 0x56
@[match_pattern] abbrev nvEscRmMapMemoryDma : ℕ := 0x57
@[match_pattern] abbrev nvEscRmUnmapMemoryDma : ℕ := 0x58
@[match_pattern] abbrev nvEscRmBindContextDma : ℕ := 0x59
@[match_pattern] abbrev nvEscRmExportObjectToFd : ℕ := 0x5c
@[match_pattern] abbrev nvEscRmImportObjectFromFd : ℕ := 0x5d
@[match_pattern] abbrev nvEscRmUpdateDeviceMappingInfo : ℕ := 0x5e
@[match_pattern] abbrev nvEscRmLocklessDiagnostic : ℕ := 0x5f

/-- The control command that `NV_ESC_IOCTL_XFER_CMD` is decoded for. -/
def nv04Control : U32 := 0x36

/-! ### Structures -/

structure NvPciInfo where
  domain : U32
  (bus slot function pad0 : U8)
  (vendorId deviceId : U16)

instance : Pod NvPciInfo := .ofCtor NvPciInfo.mk

structure NvIoctlCardInfo where
  valid : U8
  pad0 : Vector UInt8 3
  pciInfo : NvPciInfo
  gpuId : U32
  interruptLine : U16
  pad1 : Vector UInt8 2
  (regAddress regSize fbAddress fbSize : U64)
  minorNumber : U32
  devName : Vector UInt8 10
  pad2 : Vector UInt8 2

instance : Pod NvIoctlCardInfo := .ofCtor NvIoctlCardInfo.mk

structure NvIoctlRegisterFd where
  ctlFd : I32

instance : Pod NvIoctlRegisterFd := .ofCtor NvIoctlRegisterFd.mk

structure NvIoctlAllocOsEvent where
  (hClient hDevice fd status : U32)

instance : Pod NvIoctlAllocOsEvent := .ofCtor NvIoctlAllocOsEvent.mk

structure NvIoctlStatusCode where
  domain : U32
  (bus slot : U8)
  pad0 : U16
  status : U32

instance : Pod NvIoctlStatusCode := .ofCtor NvIoctlStatusCode.mk

structure NvIoctlRmApiVersion where
  (cmd reply : U32)
  versionString : Vector UInt8 64

instance : Pod NvIoctlRmApiVersion := .ofCtor NvIoctlRmApiVersion.mk

structure NvIoctlQueryDeviceIntr where
  (intrStatus status : U32)

instance : Pod NvIoctlQueryDeviceIntr := .ofCtor NvIoctlQueryDeviceIntr.mk

structure NvIoctlSysParams where
  memblockSize : U64

instance : Pod NvIoctlSysParams := .ofCtor NvIoctlSysParams.mk

structure NvIoctlWaitOpenComplete where
  rc : I32
  adapterStatus : U32

instance : Pod NvIoctlWaitOpenComplete := .ofCtor NvIoctlWaitOpenComplete.mk

structure NvOfflineAddresses where
  addresses : Vector U64 64
  numEntries : U32

instance : Pod NvOfflineAddresses := .ofCtor NvOfflineAddresses.mk

structure NvIoctlNumaInfo where
  (nid status : I32)
  (memblockSize numaMemAddr numaMemSize : U64)
  useAutoOnline : U8
  pad0 : Vector UInt8 7
  offlineAddresses : NvOfflineAddresses

instance : Pod NvIoctlNumaInfo := .ofCtor NvIoctlNumaInfo.mk

structure NvIoctlSetNumaStatus where
  status : I32

instance : Pod NvIoctlSetNumaStatus := .ofCtor NvIoctlSetNumaStatus.mk

structure NvIoctlExportToDmaBufFdPrefix where
  fd : I32
  (hClient totalObjects numObjects index : U32)
  totalSize : U64
  (mappingType bAllowMmap : U8)

instance : Pod NvIoctlExportToDmaBufFdPrefix := .ofCtor NvIoctlExportToDmaBufFdPrefix.mk

structure NvIoctlXfer where
  (cmd size : U32)
  ptr : U64

instance : Pod NvIoctlXfer := .ofCtor NvIoctlXfer.mk

structure NvOs00Parameters where
  (hRoot hObjectParent hObjectOld : U32)
  status : I32

instance : Pod NvOs00Parameters := .ofCtor NvOs00Parameters.mk

structure NvOs02Parameters where
  (hRoot hObjectParent hObjectNew : U32)
  hClass : I32
  flags : U32
  (pMemory limit : U64)
  status : I32

instance : Pod NvOs02Parameters := .ofCtor NvOs02Parameters.mk

structure NvIoctlNvos02ParametersWithFd where
  params : NvOs02Parameters
  fd : I32

instance : Pod NvIoctlNvos02ParametersWithFd := .ofCtor NvIoctlNvos02ParametersWithFd.mk

structure NvOs05Parameters where
  (hRoot hObjectParent hObjectNew : U32)
  (hClass status : I32)

instance : Pod NvOs05Parameters := .ofCtor NvOs05Parameters.mk

structure NvOs21Parameters where
  (hRoot hObjectParent hObjectNew : U32)
  hClass : I32
  pAllocParms : U64
  paramsSize : U32
  status : I32

instance : Pod NvOs21Parameters := .ofCtor NvOs21Parameters.mk

structure NvOs64Parameters where
  (hRoot hObjectParent hObjectNew : U32)
  hClass : I32
  (pAllocParms pRightsRequested : U64)
  (paramsSize flags : U32)
  status : I32

instance : Pod NvOs64Parameters := .ofCtor NvOs64Parameters.mk

structure NvOs33Parameters where
  (hClient hDevice hMemory : U32)
  (offset length pLinearAddress : U64)
  (status flags : U32)

instance : Pod NvOs33Parameters := .ofCtor NvOs33Parameters.mk

structure NvIoctlNvos33ParametersWithFd where
  params : NvOs33Parameters
  fd : I32

instance : Pod NvIoctlNvos33ParametersWithFd := .ofCtor NvIoctlNvos33ParametersWithFd.mk

structure NvOs34Parameters where
  (hClient hDevice hMemory : U32)
  pLinearAddress : U64
  (status flags : U32)

instance : Pod NvOs34Parameters := .ofCtor NvOs34Parameters.mk

structure NvOs54Parameters where
  (hClient hObject cmd flags : U32)
  params : U64
  paramsSize : U32
  status : I32

instance : Pod NvOs54Parameters := .ofCtor NvOs54Parameters.mk

structure Nv0000CtrlClientGetAddrSpaceTypeParams where
  (hObject mapFlags addrSpaceType : U32)

instance : Pod Nv0000CtrlClientGetAddrSpaceTypeParams :=
  .ofCtor Nv0000CtrlClientGetAddrSpaceTypeParams.mk

structure Nv0000CtrlOsUnixGetControlFileDescriptorParams where
  fd : I32

instance : Pod Nv0000CtrlOsUnixGetControlFileDescriptorParams :=
  .ofCtor Nv0000CtrlOsUnixGetControlFileDescriptorParams.mk

structure Nv0000CtrlSystemGetBuildVersionParams where
  sizeOfStrings : U32
  (pDriverVersionBuffer pVersionBuffer pTitleBuffer : U64)
  (changelistNumber officialChangelistNumber : U32)

instance : Pod Nv0000CtrlSystemGetBuildVersionParams :=
  .ofCtor Nv0000CtrlSystemGetBuildVersionParams.mk

end CudaTrace.Decode
