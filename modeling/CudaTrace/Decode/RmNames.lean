import CudaTrace.Decode.RmLayouts

/-!
# Names (decode/ioctl_rm.rs)

Command numbers and the tables that turn numbers into names. The generated
tables are those that build.rs writes.
-/

namespace CudaTrace.Decode
open CudaTrace.Base
open CudaTrace.Ptrace (U32 U64 I32 I64)

/-! ### Escapes -/

def generatedNvEscCmdNames : List (ℕ × String) := []

def outerCmdName (nr : U8) : String :=
  match nr.toNat with
  | nvEscRmAllocMemory => "NV_ESC_RM_ALLOC_MEMORY"
  | nvEscRmAllocObject => "NV_ESC_RM_ALLOC_OBJECT"
  | nvEscRmFree => "NV_ESC_RM_FREE"
  | nvEscRmControl => "NV_ESC_RM_CONTROL"
  | nvEscRmAlloc => "NV_ESC_RM_ALLOC"
  | nvEscRmConfigGet => "NV_ESC_RM_CONFIG_GET"
  | nvEscRmConfigSet => "NV_ESC_RM_CONFIG_SET"
  | nvEscRmDupObject => "NV_ESC_RM_DUP_OBJECT"
  | nvEscRmShare => "NV_ESC_RM_SHARE"
  | nvEscRmConfigGetEx => "NV_ESC_RM_CONFIG_GET_EX"
  | nvEscRmConfigSetEx => "NV_ESC_RM_CONFIG_SET_EX"
  | nvEscRmI2cAccess => "NV_ESC_RM_I2C_ACCESS"
  | nvEscRmIdleChannels => "NV_ESC_RM_IDLE_CHANNELS"
  | nvEscRmVidHeapControl => "NV_ESC_RM_VID_HEAP_CONTROL"
  | nvEscRmAccessRegistry => "NV_ESC_RM_ACCESS_REGISTRY"
  | nvEscRmMapMemory => "NV_ESC_RM_MAP_MEMORY"
  | nvEscRmUnmapMemory => "NV_ESC_RM_UNMAP_MEMORY"
  | nvEscRmGetEventData => "NV_ESC_RM_GET_EVENT_DATA"
  | nvEscRmAllocContextDma2 => "NV_ESC_RM_ALLOC_CONTEXT_DMA2"
  | nvEscRmAddVblankCallback => "NV_ESC_RM_ADD_VBLANK_CALLBACK"
  | nvEscRmMapMemoryDma => "NV_ESC_RM_MAP_MEMORY_DMA"
  | nvEscRmUnmapMemoryDma => "NV_ESC_RM_UNMAP_MEMORY_DMA"
  | nvEscRmBindContextDma => "NV_ESC_RM_BIND_CONTEXT_DMA"
  | nvEscRmExportObjectToFd => "NV_ESC_RM_EXPORT_OBJECT_TO_FD"
  | nvEscRmImportObjectFromFd => "NV_ESC_RM_IMPORT_OBJECT_FROM_FD"
  | nvEscRmUpdateDeviceMappingInfo => "NV_ESC_RM_UPDATE_DEVICE_MAPPING_INFO"
  | nvEscRmLocklessDiagnostic => "NV_ESC_RM_LOCKLESS_DIAGNOSTIC"
  | nvEscCardInfo => "NV_ESC_CARD_INFO"
  | nvEscRegisterFd => "NV_ESC_REGISTER_FD"
  | nvEscAllocOsEvent => "NV_ESC_ALLOC_OS_EVENT"
  | nvEscFreeOsEvent => "NV_ESC_FREE_OS_EVENT"
  | nvEscStatusCode => "NV_ESC_STATUS_CODE"
  | nvEscCheckVersionStr => "NV_ESC_CHECK_VERSION_STR"
  | nvEscIoctlXferCmd => "NV_ESC_IOCTL_XFER_CMD"
  | nvEscAttachGpusToFd => "NV_ESC_ATTACH_GPUS_TO_FD"
  | nvEscQueryDeviceIntr => "NV_ESC_QUERY_DEVICE_INTR"
  | nvEscSysParams => "NV_ESC_SYS_PARAMS"
  | nvEscNumaInfo => "NV_ESC_NUMA_INFO"
  | nvEscSetNumaStatus => "NV_ESC_SET_NUMA_STATUS"
  | nvEscExportToDmabufFd => "NV_ESC_EXPORT_TO_DMABUF_FD"
  | nvEscWaitOpenComplete => "NV_ESC_WAIT_OPEN_COMPLETE"
  | _ => (generatedNvEscCmdNames.lookup nr.toNat).getD "UNKNOWN"

/-! ### Control commands -/

@[match_pattern] abbrev nv0000CtrlCmdSystemGetBuildVersion : ℕ := 0x101
@[match_pattern] abbrev nv0000CtrlCmdClientGetAddrSpaceType : ℕ := 0xd01
@[match_pattern] abbrev nv0000CtrlCmdOsUnixGetControlFileDescriptor : ℕ := 0x3d04
@[match_pattern] abbrev nv0000CtrlCmdSystemGetFabricStatus : ℕ := 0x136
@[match_pattern] abbrev nv0000CtrlCmdSystemGetP2pCapsMatrix : ℕ := 0x13a
@[match_pattern] abbrev nv0000CtrlCmdSystemGetFeatures : ℕ := 0x1f0
@[match_pattern] abbrev nv0000CtrlCmdGpuGetMemopEnable : ℕ := 0x27b
@[match_pattern] abbrev nv0000CtrlCmdGpuGetAttachedIds : ℕ := 0x201
@[match_pattern] abbrev nv0000CtrlCmdGpuGetIdInfo : ℕ := 0x202
@[match_pattern] abbrev nv0000CtrlCmdGpuGetIdInfoV2 : ℕ := 0x205
@[match_pattern] abbrev nv0000CtrlCmdGpuGetProbedIds : ℕ := 0x214
@[match_pattern] abbrev nv0000CtrlCmdGpuAttachIds : ℕ := 0x215
@[match_pattern] abbrev nv0000CtrlCmdGpuGetActiveDeviceIds : ℕ := 0x288
@[match_pattern] abbrev nv0000CtrlCmdSyncGpuBoostGroupInfo : ℕ := 0xa04
@[match_pattern] abbrev nv0000CtrlCmdClientSetInheritedSharePolicy : ℕ := 0xd04
@[match_pattern] abbrev nv0080CtrlCmdGpuGetNumSubdevices : ℕ := 0x800280
@[match_pattern] abbrev nv0080CtrlCmdGpuGetClasslistV2 : ℕ := 0x800292
@[match_pattern] abbrev nv0080CtrlCmdGpuGetVirtualizationMode : ℕ := 0x800289
@[match_pattern] abbrev nv0080CtrlCmdHostGetCapsV2 : ℕ := 0x801402
@[match_pattern] abbrev nv0080CtrlCmdFbGetCapsV2 : ℕ := 0x801307
@[match_pattern] abbrev nv0080CtrlCmdFifoGetChannellist : ℕ := 0x80170d
@[match_pattern] abbrev nv0080CtrlCmdPerfCudaLimitSetControl : ℕ := 0x801909
@[match_pattern] abbrev nv906fCtrlGetClassEngineid : ℕ := 0x906f0101
@[match_pattern] abbrev nvc36fCtrlCmdGpfifoGetWorkSubmitToken : ℕ := 0xc36f0108
@[match_pattern] abbrev nv2080CtrlCmdGpuGetInfoV2 : ℕ := 0x20800102
@[match_pattern] abbrev nv2080CtrlCmdGpuGetNameString : ℕ := 0x20800110
@[match_pattern] abbrev nv2080CtrlCmdGpuGetShortNameString : ℕ := 0x20800111
@[match_pattern] abbrev nv2080CtrlCmdGpuGetSimulationInfo : ℕ := 0x20800119
@[match_pattern] abbrev nv2080CtrlCmdGpuQueryEccStatus : ℕ := 0x2080012f
@[match_pattern] abbrev nv2080CtrlCmdGpuQueryComputeModeRules : ℕ := 0x20800131
@[match_pattern] abbrev nv2080CtrlCmdGpuGetGidInfo : ℕ := 0x2080014a
@[match_pattern] abbrev nv2080CtrlCmdGpuGetEnginesV2 : ℕ := 0x20800170
@[match_pattern] abbrev nv2080CtrlCmdGrGetInfo : ℕ := 0x20801201
@[match_pattern] abbrev nv2080CtrlCmdGrGetGlobalSmOrder : ℕ := 0x2080121b
@[match_pattern] abbrev nv2080CtrlCmdGrGetCapsV2 : ℕ := 0x20801227
@[match_pattern] abbrev nv2080CtrlCmdGrGetGpcMask : ℕ := 0x2080122a
@[match_pattern] abbrev nv2080CtrlCmdGrGetTpcMask : ℕ := 0x2080122b
@[match_pattern] abbrev nv2080CtrlCmdGrSetCtxswPreemptionMode : ℕ := 0x20801210
@[match_pattern] abbrev nv2080CtrlCmdGrGetCtxBufferSize : ℕ := 0x20801218
@[match_pattern] abbrev nv2080CtrlCmdFbGetInfoV2 : ℕ := 0x20801303
@[match_pattern] abbrev nv2080CtrlCmdMcGetArchInfo : ℕ := 0x20801701
@[match_pattern] abbrev nv2080CtrlCmdBusGetPciInfo : ℕ := 0x20801801
@[match_pattern] abbrev nv2080CtrlCmdBusGetInfoV2 : ℕ := 0x20801823
@[match_pattern] abbrev nv2080CtrlCmdBusGetPciBarInfo : ℕ := 0x20801803
@[match_pattern] abbrev nv2080CtrlCmdBusGetPcieSupportedGpuAtomics : ℕ := 0x2080182a
@[match_pattern] abbrev nv2080CtrlCmdBusGetC2cInfo : ℕ := 0x2080182b
@[match_pattern] abbrev nv2080CtrlCmdPerfBoost : ℕ := 0x2080200a
@[match_pattern] abbrev nv2080CtrlCmdCeGetAllCaps : ℕ := 0x20802a0a
@[match_pattern] abbrev nv2080CtrlCmdNvlinkGetNvlinkStatus : ℕ := 0x20803002
@[match_pattern] abbrev nv2080CtrlCmdGspGetFeatures : ℕ := 0x20803601
@[match_pattern] abbrev nv2080CtrlCmdGrmgrGetGrFsInfo : ℕ := 0x20803801
@[match_pattern] abbrev nva06cCtrlCmdGpfifoSchedule : ℕ := 0xa06c0101
@[match_pattern] abbrev nva06cCtrlCmdSetTimeslice : ℕ := 0xa06c0103
@[match_pattern] abbrev nva06cCtrlCmdPreempt : ℕ := 0xa06c0105
@[match_pattern] abbrev nv83deCtrlCmdDebugSetExceptionMask : ℕ := 0x83de0309
@[match_pattern] abbrev nvConfComputeCtrlCmdSystemGetCapabilities : ℕ := 0xcb330101

def generatedRmControlCmdNames : List (ℕ × String) :=
  [(0x13e, "NV0000_CTRL_CMD_SYSTEM_GET_BUILD_VERSION_V2"),
    (0x20800147, "NV2080_CTRL_CMD_GPU_GET_ENGINE_PARTNERLIST"),
    (0x20800601, "NV2080_CTRL_CMD_I2C_READ_BUFFER")]

def generatedRmInterfaceNames : List (ℕ × String) := [(0x208101, "NV2081_BINAPI")]

/-- `nv2080_interface_name`. -/
def nv2080InterfaceName (interface : U8) : Option String :=
  match interface.toNat with
  | 0x0 => some "RESERVED"
  | 0x1 => some "GPU"
  | 0x81 => some "GPU_LEGACY_NON_PRIVILEGED"
  | 0x2 => some "FUSE"
  | 0x82 => some "FUSE_LEGACY_NON_PRIVILEGED"
  | 0x3 => some "EVENT"
  | 0x4 => some "TIMER"
  | 0x5 => some "THERMAL"
  | 0xc5 => some "THERMAL_LEGACY_PRIVILEGED"
  | 0x85 => some "THERMAL_LEGACY_NON_PRIVILEGED"
  | 0x6 => some "I2C"
  | 0x7 => some "EXTI2C"
  | 0x8 => some "BIOS"
  | 0x9 => some "CIPHER"
  | 0xa => some "INTERNAL"
  | 0xd0 => some "CLK_LEGACY_PRIVILEGED"
  | 0x90 => some "CLK_LEGACY_NON_PRIVILEGED"
  | 0x10 => some "CLK"
  | 0x11 => some "FIFO"
  | 0x12 => some "GR"
  | 0x13 => some "FB"
  | 0x17 => some "MC"
  | 0x18 => some "BUS"
  | 0xe0 => some "PERF_LEGACY_PRIVILEGED"
  | 0xa0 => some "PERF_LEGACY_NON_PRIVILEGED"
  | 0x20 => some "PERF"
  | 0x21 => some "NVIF"
  | 0x22 => some "RC"
  | 0x23 => some "GPIO"
  | 0xa3 => some "GPIO_LEGACY_NON_PRIVILEGED"
  | 0x24 => some "NVD"
  | 0x25 => some "DMA"
  | 0x26 => some "PMGR"
  | 0xe6 => some "PMGR_LEGACY_PRIVILEGED"
  | 0xa6 => some "PMGR_LEGACY_NON_PRIVILEGED"
  | 0x27 => some "POWER"
  | 0xa7 => some "POWER_LEGACY_NON_PRIVILEGED"
  | 0x28 => some "LPWR"
  | 0xa8 => some "LPWR_LEGACY_NON_PRIVILEGED"
  | 0xe8 => some "LPWR_LEGACY_PRIVILEGED"
  | 0x29 => some "ACR"
  | 0x2a => some "CE"
  | 0x2b => some "SPI"
  | 0x30 => some "NVLINK"
  | 0x31 => some "FLCN"
  | 0x32 => some "VOLT"
  | 0xf2 => some "VOLT_LEGACY_PRIVILEGED"
  | 0xb2 => some "VOLT_LEGACY_NON_PRIVILEGED"
  | 0x33 => some "FAS"
  | 0x34 => some "ECC"
  | 0xb4 => some "ECC_NON_PRIVILEGED"
  | 0x35 => some "FLA"
  | 0x36 => some "GSP"
  | 0x37 => some "NNE"
  | 0xb7 => some "NNE_LEGACY_NON_PRIVILEGED"
  | 0x38 => some "GRMGR"
  | 0x39 => some "UCODE_FUZZER"
  | 0x3a => some "DMABUF"
  | 0x3b => some "BIF"
  | 0x3d => some "OS_UNIX"
  | 0x3e => some "OS_MACOS"
  | 0x3f => some "OS_WINDOWS"
  | _ => none

def rmControlInterfaceName (cmd : U32) : Option String :=
  if cmd >>> 16 ≠ 0x2080 then none else nv2080InterfaceName ((cmd >>> 8).setWidth 8)

def rmControlLegacyFamily (interface : U8) : Option String :=
  match interface.toNat with
  | 0x81 => some "GPU_LEGACY_NON_PRIVILEGED"
  | 0x82 => some "FUSE_LEGACY_NON_PRIVILEGED"
  | 0x85 => some "THERMAL_LEGACY_NON_PRIVILEGED"
  | 0x90 => some "CLK_LEGACY_NON_PRIVILEGED"
  | 0xa0 => some "PERF_LEGACY_NON_PRIVILEGED"
  | 0xa3 => some "GPIO_LEGACY_NON_PRIVILEGED"
  | 0xa6 => some "PMGR_LEGACY_NON_PRIVILEGED"
  | 0xa7 => some "POWER_LEGACY_NON_PRIVILEGED"
  | 0xa8 => some "LPWR_LEGACY_NON_PRIVILEGED"
  | 0xb2 => some "VOLT_LEGACY_NON_PRIVILEGED"
  | 0xb4 => some "ECC_NON_PRIVILEGED"
  | 0xb7 => some "NNE_LEGACY_NON_PRIVILEGED"
  | 0xc5 => some "THERMAL_LEGACY_PRIVILEGED"
  | 0xd0 => some "CLK_LEGACY_PRIVILEGED"
  | 0xe0 => some "PERF_LEGACY_PRIVILEGED"
  | 0xe6 => some "PMGR_LEGACY_PRIVILEGED"
  | 0xe8 => some "LPWR_LEGACY_PRIVILEGED"
  | 0xf2 => some "VOLT_LEGACY_PRIVILEGED"
  | _ => none

def rmControlLegacyFamilyAndMsgId (cmd : U32) : Option (String × U8) :=
  if cmd >>> 16 ≠ 0x2080 then none
  else (rmControlLegacyFamily ((cmd >>> 8).setWidth 8)).map fun family => (family, cmd.setWidth 8)

def rmControlCmdNameFallback (cmd : U32) : String :=
  let msgId : U8 := cmd.setWidth 8
  match rmControlLegacyFamilyAndMsgId cmd with
  | some (family, msgId) => "NV2080_CTRL_CMD_" ++ family ++ "_0x" ++ hexPad 2 msgId.toNat
  | none =>
    match rmControlInterfaceName cmd with
    | some interface => "NV2080_CTRL_CMD_" ++ interface ++ "_0x" ++ hexPad 2 msgId.toNat
    | none =>
      match generatedRmInterfaceNames.lookup (cmd >>> 8).toNat with
      | some interface => interface ++ "_CMD_0x" ++ hexPad 2 msgId.toNat
      | none => "UNKNOWN"

def rmControlCmdName (cmd : U32) : String :=
  match cmd.toNat with
  | nv0000CtrlCmdSystemGetBuildVersion => "NV0000_CTRL_CMD_SYSTEM_GET_BUILD_VERSION"
  | nv0000CtrlCmdSystemGetFabricStatus => "NV0000_CTRL_CMD_SYSTEM_GET_FABRIC_STATUS"
  | nv0000CtrlCmdSystemGetP2pCapsMatrix => "NV0000_CTRL_CMD_SYSTEM_GET_P2P_CAPS_MATRIX"
  | nv0000CtrlCmdClientGetAddrSpaceType => "NV0000_CTRL_CMD_CLIENT_GET_ADDR_SPACE_TYPE"
  | nv0000CtrlCmdOsUnixGetControlFileDescriptor =>
    "NV0000_CTRL_CMD_OS_UNIX_GET_CONTROL_FILE_DESCRIPTOR"
  | nv0000CtrlCmdClientSetInheritedSharePolicy =>
    "NV0000_CTRL_CMD_CLIENT_SET_INHERITED_SHARE_POLICY"
  | nv0000CtrlCmdSystemGetFeatures => "NV0000_CTRL_CMD_SYSTEM_GET_FEATURES"
  | nv0000CtrlCmdGpuGetMemopEnable => "NV0000_CTRL_CMD_GPU_GET_MEMOP_ENABLE"
  | nv0000CtrlCmdGpuGetAttachedIds => "NV0000_CTRL_CMD_GPU_GET_ATTACHED_IDS"
  | nv0000CtrlCmdGpuGetIdInfo => "NV0000_CTRL_CMD_GPU_GET_ID_INFO"
  | nv0000CtrlCmdGpuGetIdInfoV2 => "NV0000_CTRL_CMD_GPU_GET_ID_INFO_V2"
  | nv0000CtrlCmdGpuGetProbedIds => "NV0000_CTRL_CMD_GPU_GET_PROBED_IDS"
  | nv0000CtrlCmdGpuAttachIds => "NV0000_CTRL_CMD_GPU_ATTACH_IDS"
  | nv0000CtrlCmdGpuGetActiveDeviceIds => "NV0000_CTRL_CMD_GPU_GET_ACTIVE_DEVICE_IDS"
  | nv0000CtrlCmdSyncGpuBoostGroupInfo => "NV0000_CTRL_CMD_SYNC_GPU_BOOST_GROUP_INFO"
  | nv0080CtrlCmdHostGetCapsV2 => "NV0080_CTRL_CMD_HOST_GET_CAPS_V2"
  | nv0080CtrlCmdGpuGetNumSubdevices => "NV0080_CTRL_CMD_GPU_GET_NUM_SUBDEVICES"
  | nv0080CtrlCmdGpuGetClasslistV2 => "NV0080_CTRL_CMD_GPU_GET_CLASSLIST_V2"
  | nv0080CtrlCmdGpuGetVirtualizationMode => "NV0080_CTRL_CMD_GPU_GET_VIRTUALIZATION_MODE"
  | nv0080CtrlCmdFifoGetChannellist => "NV0080_CTRL_CMD_FIFO_GET_CHANNELLIST"
  | nv0080CtrlCmdPerfCudaLimitSetControl => "NV0080_CTRL_CMD_PERF_CUDA_LIMIT_SET_CONTROL"
  | nv0080CtrlCmdFbGetCapsV2 => "NV0080_CTRL_CMD_FB_GET_CAPS_V2"
  | nv906fCtrlGetClassEngineid => "NV906F_CTRL_GET_CLASS_ENGINEID"
  | nvc36fCtrlCmdGpfifoGetWorkSubmitToken => "NVC36F_CTRL_CMD_GPFIFO_GET_WORK_SUBMIT_TOKEN"
  | nv2080CtrlCmdGpuGetInfoV2 => "NV2080_CTRL_CMD_GPU_GET_INFO_V2"
  | nv2080CtrlCmdGpuGetNameString => "NV2080_CTRL_CMD_GPU_GET_NAME_STRING"
  | nv2080CtrlCmdGpuGetShortNameString => "NV2080_CTRL_CMD_GPU_GET_SHORT_NAME_STRING"
  | nv2080CtrlCmdGpuGetSimulationInfo => "NV2080_CTRL_CMD_GPU_GET_SIMULATION_INFO"
  | nv2080CtrlCmdGpuQueryEccStatus => "NV2080_CTRL_CMD_GPU_QUERY_ECC_STATUS"
  | nv2080CtrlCmdGpuQueryComputeModeRules => "NV2080_CTRL_CMD_GPU_QUERY_COMPUTE_MODE_RULES"
  | nv2080CtrlCmdGpuGetGidInfo => "NV2080_CTRL_CMD_GPU_GET_GID_INFO"
  | nv2080CtrlCmdGpuGetEnginesV2 => "NV2080_CTRL_CMD_GPU_GET_ENGINES_V2"
  | nv2080CtrlCmdGrGetInfo => "NV2080_CTRL_CMD_GR_GET_INFO"
  | nv2080CtrlCmdGrGetGlobalSmOrder => "NV2080_CTRL_CMD_GR_GET_GLOBAL_SM_ORDER"
  | nv2080CtrlCmdGrGetCapsV2 => "NV2080_CTRL_CMD_GR_GET_CAPS_V2"
  | nv2080CtrlCmdGrGetGpcMask => "NV2080_CTRL_CMD_GR_GET_GPC_MASK"
  | nv2080CtrlCmdGrGetTpcMask => "NV2080_CTRL_CMD_GR_GET_TPC_MASK"
  | nv2080CtrlCmdGrSetCtxswPreemptionMode => "NV2080_CTRL_CMD_GR_SET_CTXSW_PREEMPTION_MODE"
  | nv2080CtrlCmdGrGetCtxBufferSize => "NV2080_CTRL_CMD_GR_GET_CTX_BUFFER_SIZE"
  | nv2080CtrlCmdFbGetInfoV2 => "NV2080_CTRL_CMD_FB_GET_INFO_V2"
  | nv2080CtrlCmdMcGetArchInfo => "NV2080_CTRL_CMD_MC_GET_ARCH_INFO"
  | nv2080CtrlCmdBusGetPciInfo => "NV2080_CTRL_CMD_BUS_GET_PCI_INFO"
  | nv2080CtrlCmdBusGetInfoV2 => "NV2080_CTRL_CMD_BUS_GET_INFO_V2"
  | nv2080CtrlCmdBusGetPciBarInfo => "NV2080_CTRL_CMD_BUS_GET_PCI_BAR_INFO"
  | nv2080CtrlCmdBusGetPcieSupportedGpuAtomics =>
    "NV2080_CTRL_CMD_BUS_GET_PCIE_SUPPORTED_GPU_ATOMICS"
  | nv2080CtrlCmdBusGetC2cInfo => "NV2080_CTRL_CMD_BUS_GET_C2C_INFO"
  | nv2080CtrlCmdPerfBoost => "NV2080_CTRL_CMD_PERF_BOOST"
  | nv2080CtrlCmdCeGetAllCaps => "NV2080_CTRL_CMD_CE_GET_ALL_CAPS"
  | nv2080CtrlCmdNvlinkGetNvlinkStatus => "NV2080_CTRL_CMD_NVLINK_GET_NVLINK_STATUS"
  | nv2080CtrlCmdGspGetFeatures => "NV2080_CTRL_CMD_GSP_GET_FEATURES"
  | nv2080CtrlCmdGrmgrGetGrFsInfo => "NV2080_CTRL_CMD_GRMGR_GET_GR_FS_INFO"
  | nva06cCtrlCmdGpfifoSchedule => "NVA06C_CTRL_CMD_GPFIFO_SCHEDULE"
  | nva06cCtrlCmdSetTimeslice => "NVA06C_CTRL_CMD_SET_TIMESLICE"
  | nva06cCtrlCmdPreempt => "NVA06C_CTRL_CMD_PREEMPT"
  | nv83deCtrlCmdDebugSetExceptionMask => "NV83DE_CTRL_CMD_DEBUG_SET_EXCEPTION_MASK"
  | nvConfComputeCtrlCmdSystemGetCapabilities =>
    "NV_CONF_COMPUTE_CTRL_CMD_SYSTEM_GET_CAPABILITIES"
  | _ => (generatedRmControlCmdNames.lookup cmd.toNat).getD (rmControlCmdNameFallback cmd)

def rmControlParamsTypeName (cmdName : String) : Option String :=
  if cmdName = "UNKNOWN" then none
  else
    match splitOnceStr cmdName "_CMD_" with
    | none => none
    | some (start, suffix) =>
      if suffix = "" then none else some (start ++ "_" ++ suffix ++ "_PARAMS")

/-! ### Values -/

def rmVidHeapFunctionName (function : U32) : String :=
  match function.toNat with
  | 2 => "NVOS32_FUNCTION_ALLOC_SIZE"
  | 3 => "NVOS32_FUNCTION_FREE"
  | 5 => "NVOS32_FUNCTION_INFO"
  | 6 => "NVOS32_FUNCTION_ALLOC_TILED_PITCH_HEIGHT"
  | 14 => "NVOS32_FUNCTION_ALLOC_SIZE_RANGE"
  | 15 => "NVOS32_FUNCTION_REACQUIRE_COMPR"
  | 16 => "NVOS32_FUNCTION_RELEASE_COMPR"
  | 18 => "NVOS32_FUNCTION_GET_MEM_ALIGNMENT"
  | 19 => "NVOS32_FUNCTION_HW_ALLOC"
  | 20 => "NVOS32_FUNCTION_HW_FREE"
  | 27 => "NVOS32_FUNCTION_ALLOC_OS_DESCRIPTOR"
  | _ => "UNKNOWN"

def virtualizationModeName (mode : U32) : String :=
  match mode.toNat with
  | 0 => "NONE"
  | 1 => "NMOS"
  | 2 => "VGX"
  | 3 => "HOST/HOST_VGPU"
  | 4 => "HOST_VSGA"
  | _ => "UNKNOWN"

def fabricStatusName (value : U32) : String :=
  match value.toNat with
  | 1 => "SKIP"
  | 2 => "UNINITIALIZED"
  | 3 => "IN_PROGRESS"
  | 4 => "INITIALIZED"
  | _ => "UNKNOWN"

def simulationInfoTypeName (value : U32) : String :=
  match value.toNat with
  | 0 => "NONE"
  | 1 => "MODS_AMODEL"
  | 2 => "LIVE_AMODEL"
  | 3 => "FMODEL"
  | 4 => "RTL"
  | 5 => "EMU"
  | 6 => "EMU_LOW_POWER"
  | 7 => "DFPGA"
  | 8 => "DFPGA_RTL"
  | 9 => "DFPGA_FMODEL"
  | 0xffffffff => "UNKNOWN_FLAG"
  | _ => "UNKNOWN"

def computeModeRulesName (value : U32) : String :=
  match value.toNat with
  | 0 => "NONE"
  | 1 => "EXCLUSIVE_COMPUTE"
  | 2 => "COMPUTE_PROHIBITED"
  | 3 => "EXCLUSIVE_COMPUTE_PROCESS"
  | _ => "UNKNOWN"

def c2cRemoteTypeName (value : U32) : String :=
  match value.toNat with
  | 0 => "NONE"
  | 1 => "CPU"
  | 2 => "GPU"
  | _ => "UNKNOWN"

def grmgrQueryTypeName (value : U16) : String :=
  match value.toNat with
  | 1 => "GPC_COUNT"
  | 2 => "CHIPLET_GPC_MAP"
  | 3 => "TPC_MASK"
  | 4 => "PPC_MASK"
  | 5 => "PARTITION_CHIPLET_GPC_MAP"
  | 6 => "CHIPLET_SYSPIPE_MASK"
  | 7 => "PARTITION_CHIPLET_SYSPIPE_IDS"
  | 8 => "PROFILER_MON_GPC_MASK"
  | 9 => "PARTITION_SYSPIPE_ID"
  | 10 => "ROP_MASK"
  | 11 => "CHIPLET_GRAPHICS_SYSPIPE_MASK"
  | 12 => "GFX_CAPABLE_GPC_MASK"
  | _ => "UNKNOWN"

def nvos02FlagsPhysicalityName (value : U32) : String :=
  match value.toNat with
  | 0x0 => "CONTIGUOUS"
  | 0x1 => "NONCONTIGUOUS"
  | _ => "UNKNOWN"

def nvos02FlagsLocationName (value : U32) : String :=
  match value.toNat with
  | 0x0 => "PCI"
  | 0x2 => "VIDMEM"
  | _ => "UNKNOWN"

def nvos02FlagsCoherencyName (value : U32) : String :=
  match value.toNat with
  | 0x0 => "UNCACHED"
  | 0x1 => "CACHED"
  | 0x2 => "WRITE_COMBINE"
  | 0x3 => "WRITE_THROUGH"
  | 0x4 => "WRITE_PROTECT"
  | 0x5 => "WRITE_BACK"
  | _ => "UNKNOWN"

def nvos02FlagsAllocName (value : U32) : String :=
  match value.toNat with
  | 0x0 => "DEFAULT"
  | 0x1 => "NONE"
  | _ => "UNKNOWN"

def nvos02FlagsMappingName (value : U32) : String :=
  match value.toNat with
  | 0x0 => "DEFAULT"
  | 0x1 => "NO_MAP"
  | 0x2 => "NEVER_MAP"
  | _ => "UNKNOWN"

def addrSpaceTypeName (value : U32) : String :=
  match value.toNat with
  | 0x0 => "INVALID"
  | 0x1 => "SYSMEM"
  | 0x2 => "VIDMEM"
  | 0x3 => "REGMEM"
  | 0x4 => "FABRIC"
  | 0x5 => "FABRIC_MC"
  | _ => "UNKNOWN"

def pcieAtomicOpName (index : ℕ) : String :=
  match index with
  | 0 => "IADD"
  | 1 => "IMIN"
  | 2 => "IMAX"
  | 3 => "INC"
  | 4 => "DEC"
  | 5 => "IAND"
  | 6 => "IOR"
  | 7 => "IXOR"
  | 8 => "EXCH"
  | 9 => "CAS"
  | 10 => "FADD"
  | 11 => "FMIN"
  | 12 => "FMAX"
  | _ => "UNKNOWN"

def rmAllocClassName (classId : I32) : Option String :=
  match classId.toNat with
  | 0x0 => some "NV01_ROOT"
  | 0x1 => some "NV01_ROOT_NON_PRIV"
  | 0x41 => some "NV01_ROOT_CLIENT"
  | 0x3e => some "NV01_MEMORY_SYSTEM"
  | 0x40 => some "NV01_MEMORY_LOCAL_USER"
  | 0x71 => some "NV01_MEMORY_SYSTEM_OS_DESCRIPTOR"
  | 0x79 => some "NV01_EVENT_OS_EVENT"
  | 0x80 => some "NV01_DEVICE_0"
  | 0xde => some "RM_USER_SHARED_DATA"
  | 0x2080 => some "NV20_SUBDEVICE_0"
  | 0x2081 => some "NV2081_BINAPI"
  | 0x50a0 => some "NV50_MEMORY_VIRTUAL"
  | 0x83de => some "GT200_DEBUGGER"
  | 0x9067 => some "FERMI_CONTEXT_SHARE_A"
  | 0x90f1 => some "FERMI_VASPACE_A"
  | 0xa06c => some "KEPLER_CHANNEL_GROUP_A"
  | 0xc461 => some "TURING_USERMODE_A"
  | 0xc56f => some "AMPERE_CHANNEL_GPFIFO_A"
  | 0xc7b5 => some "AMPERE_DMA_COPY_B"
  | 0xc7c0 => some "AMPERE_COMPUTE_B"
  | 0xcb33 => some "NV_CONFIDENTIAL_COMPUTE"
  | _ => none

end CudaTrace.Decode
