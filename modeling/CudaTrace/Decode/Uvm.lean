import CudaTrace.Config
import CudaTrace.Decode.UvmLayouts

/-!
# Unified memory commands (decode/ioctl_uvm.rs)

Commands are numbered by the low half of the command word. Decoders with the same
structure and the same members share one body.
-/

namespace CudaTrace.Decode.Uvm
open CudaTrace.Base CudaTrace.Base.Checked
open CudaTrace.Ptrace (U32 U64 I32 I64)

@[match_pattern] abbrev uvmInitialize : ℕ := 0x30000001
@[match_pattern] abbrev uvmDeinitialize : ℕ := 0x30000002
@[match_pattern] abbrev uvmReserveVa : ℕ := 1
@[match_pattern] abbrev uvmReleaseVa : ℕ := 2
@[match_pattern] abbrev uvmRegionCommit : ℕ := 3
@[match_pattern] abbrev uvmRegionDecommit : ℕ := 4
@[match_pattern] abbrev uvmRegionSetStream : ℕ := 5
@[match_pattern] abbrev uvmSetStreamRunning : ℕ := 6
@[match_pattern] abbrev uvmSetStreamStopped : ℕ := 7
@[match_pattern] abbrev uvmAddSession : ℕ := 10
@[match_pattern] abbrev uvmEnableCounters : ℕ := 12
@[match_pattern] abbrev uvmMapCounter : ℕ := 13
@[match_pattern] abbrev uvmCreateEventQueue : ℕ := 14
@[match_pattern] abbrev uvmRemoveEventQueue : ℕ := 15
@[match_pattern] abbrev uvmMapEventQueue : ℕ := 16
@[match_pattern] abbrev uvmEventCtrl : ℕ := 17
@[match_pattern] abbrev uvmGetGpuUuidTable : ℕ := 20
@[match_pattern] abbrev uvmRegionSetBacking : ℕ := 21
@[match_pattern] abbrev uvmRegionUnsetBacking : ℕ := 22
@[match_pattern] abbrev uvmCreateRangeGroup : ℕ := 23
@[match_pattern] abbrev uvmDestroyRangeGroup : ℕ := 24
@[match_pattern] abbrev uvmRegisterGpuVaspace : ℕ := 25
@[match_pattern] abbrev uvmUnregisterGpuVaspace : ℕ := 26
@[match_pattern] abbrev uvmRegisterChannel : ℕ := 27
@[match_pattern] abbrev uvmUnregisterChannel : ℕ := 28
@[match_pattern] abbrev uvmEnablePeerAccess : ℕ := 29
@[match_pattern] abbrev uvmDisablePeerAccess : ℕ := 30
@[match_pattern] abbrev uvmSetRangeGroup : ℕ := 31
@[match_pattern] abbrev uvmMapExternalAllocation : ℕ := 33
@[match_pattern] abbrev uvmFree : ℕ := 34
@[match_pattern] abbrev uvmMemMap : ℕ := 35
@[match_pattern] abbrev uvmRegisterGpu : ℕ := 37
@[match_pattern] abbrev uvmUnregisterGpu : ℕ := 38
@[match_pattern] abbrev uvmPageableMemAccess : ℕ := 39
@[match_pattern] abbrev uvmPreventMigrationRangeGroups : ℕ := 40
@[match_pattern] abbrev uvmAllowMigrationRangeGroups : ℕ := 41
@[match_pattern] abbrev uvmSetPreferredLocation : ℕ := 42
@[match_pattern] abbrev uvmUnsetPreferredLocation : ℕ := 43
@[match_pattern] abbrev uvmEnableReadDuplication : ℕ := 44
@[match_pattern] abbrev uvmDisableReadDuplication : ℕ := 45
@[match_pattern] abbrev uvmSetAccessedBy : ℕ := 46
@[match_pattern] abbrev uvmUnsetAccessedBy : ℕ := 47
@[match_pattern] abbrev uvmMigrate : ℕ := 51
@[match_pattern] abbrev uvmMigrateRangeGroup : ℕ := 53
@[match_pattern] abbrev uvmEnableSystemWideAtomics : ℕ := 54
@[match_pattern] abbrev uvmDisableSystemWideAtomics : ℕ := 55
@[match_pattern] abbrev uvmToolsInitEventTracker : ℕ := 56
@[match_pattern] abbrev uvmToolsSetNotificationThreshold : ℕ := 57
@[match_pattern] abbrev uvmToolsEventQueueEnableEvents : ℕ := 58
@[match_pattern] abbrev uvmToolsEventQueueDisableEvents : ℕ := 59
@[match_pattern] abbrev uvmToolsEnableCounters : ℕ := 60
@[match_pattern] abbrev uvmToolsDisableCounters : ℕ := 61
@[match_pattern] abbrev uvmToolsReadProcessMemory : ℕ := 62
@[match_pattern] abbrev uvmToolsWriteProcessMemory : ℕ := 63
@[match_pattern] abbrev uvmToolsGetProcessorUuidTable : ℕ := 64
@[match_pattern] abbrev uvmMapDynamicParallelismRegion : ℕ := 65
@[match_pattern] abbrev uvmUnmapExternal : ℕ := 66
@[match_pattern] abbrev uvmToolsFlushEvents : ℕ := 67
@[match_pattern] abbrev uvmAllocSemaphorePool : ℕ := 68
@[match_pattern] abbrev uvmCleanUpZombieResources : ℕ := 69
@[match_pattern] abbrev uvmPageableMemAccessOnGpu : ℕ := 70
@[match_pattern] abbrev uvmPopulatePageable : ℕ := 71
@[match_pattern] abbrev uvmValidateVaRange : ℕ := 72
@[match_pattern] abbrev uvmCreateExternalRange : ℕ := 73
@[match_pattern] abbrev uvmMapExternalSparse : ℕ := 74
@[match_pattern] abbrev uvmMmInitialize : ℕ := 75
@[match_pattern] abbrev uvmToolsInitEventTrackerV2 : ℕ := 76
@[match_pattern] abbrev uvmToolsGetProcessorUuidTableV2 : ℕ := 77
@[match_pattern] abbrev uvmAllocDeviceP2p : ℕ := 78
@[match_pattern] abbrev uvmClearAllAccessCounters : ℕ := 79
@[match_pattern] abbrev uvmDiscard : ℕ := 80
@[match_pattern] abbrev uvmIs8Supported : ℕ := 2047

def normalizeUvmCmd (cmd : U64) : ℕ := (cmd &&& 0xffffffff).toNat

def uvmCmdName (cmd : U64) : String :=
  match normalizeUvmCmd cmd with
  | uvmInitialize => "UVM_INITIALIZE"
  | uvmDeinitialize => "UVM_DEINITIALIZE"
  | uvmReserveVa => "UVM_RESERVE_VA"
  | uvmReleaseVa => "UVM_RELEASE_VA"
  | uvmRegionCommit => "UVM_REGION_COMMIT"
  | uvmRegionDecommit => "UVM_REGION_DECOMMIT"
  | uvmRegionSetStream => "UVM_REGION_SET_STREAM"
  | uvmSetStreamRunning => "UVM_SET_STREAM_RUNNING"
  | uvmSetStreamStopped => "UVM_SET_STREAM_STOPPED"
  | uvmAddSession => "UVM_ADD_SESSION"
  | uvmEnableCounters => "UVM_ENABLE_COUNTERS"
  | uvmMapCounter => "UVM_MAP_COUNTER"
  | uvmCreateEventQueue => "UVM_CREATE_EVENT_QUEUE"
  | uvmRemoveEventQueue => "UVM_REMOVE_EVENT_QUEUE"
  | uvmMapEventQueue => "UVM_MAP_EVENT_QUEUE"
  | uvmEventCtrl => "UVM_EVENT_CTRL"
  | uvmGetGpuUuidTable => "UVM_GET_GPU_UUID_TABLE"
  | uvmRegionSetBacking => "UVM_REGION_SET_BACKING"
  | uvmRegionUnsetBacking => "UVM_REGION_UNSET_BACKING"
  | uvmCreateRangeGroup => "UVM_CREATE_RANGE_GROUP"
  | uvmDestroyRangeGroup => "UVM_DESTROY_RANGE_GROUP"
  | uvmRegisterGpuVaspace => "UVM_REGISTER_GPU_VASPACE"
  | uvmUnregisterGpuVaspace => "UVM_UNREGISTER_GPU_VASPACE"
  | uvmRegisterChannel => "UVM_REGISTER_CHANNEL"
  | uvmUnregisterChannel => "UVM_UNREGISTER_CHANNEL"
  | uvmEnablePeerAccess => "UVM_ENABLE_PEER_ACCESS"
  | uvmDisablePeerAccess => "UVM_DISABLE_PEER_ACCESS"
  | uvmSetRangeGroup => "UVM_SET_RANGE_GROUP"
  | uvmMapExternalAllocation => "UVM_MAP_EXTERNAL_ALLOCATION"
  | uvmFree => "UVM_FREE"
  | uvmMemMap => "UVM_MEM_MAP"
  | uvmRegisterGpu => "UVM_REGISTER_GPU"
  | uvmUnregisterGpu => "UVM_UNREGISTER_GPU"
  | uvmPageableMemAccess => "UVM_PAGEABLE_MEM_ACCESS"
  | uvmPreventMigrationRangeGroups => "UVM_PREVENT_MIGRATION_RANGE_GROUPS"
  | uvmAllowMigrationRangeGroups => "UVM_ALLOW_MIGRATION_RANGE_GROUPS"
  | uvmSetPreferredLocation => "UVM_SET_PREFERRED_LOCATION"
  | uvmUnsetPreferredLocation => "UVM_UNSET_PREFERRED_LOCATION"
  | uvmEnableReadDuplication => "UVM_ENABLE_READ_DUPLICATION"
  | uvmDisableReadDuplication => "UVM_DISABLE_READ_DUPLICATION"
  | uvmSetAccessedBy => "UVM_SET_ACCESSED_BY"
  | uvmUnsetAccessedBy => "UVM_UNSET_ACCESSED_BY"
  | uvmMigrate => "UVM_MIGRATE"
  | uvmMigrateRangeGroup => "UVM_MIGRATE_RANGE_GROUP"
  | uvmEnableSystemWideAtomics => "UVM_ENABLE_SYSTEM_WIDE_ATOMICS"
  | uvmDisableSystemWideAtomics => "UVM_DISABLE_SYSTEM_WIDE_ATOMICS"
  | uvmToolsInitEventTracker => "UVM_TOOLS_INIT_EVENT_TRACKER"
  | uvmToolsSetNotificationThreshold => "UVM_TOOLS_SET_NOTIFICATION_THRESHOLD"
  | uvmToolsEventQueueEnableEvents => "UVM_TOOLS_EVENT_QUEUE_ENABLE_EVENTS"
  | uvmToolsEventQueueDisableEvents => "UVM_TOOLS_EVENT_QUEUE_DISABLE_EVENTS"
  | uvmToolsEnableCounters => "UVM_TOOLS_ENABLE_COUNTERS"
  | uvmToolsDisableCounters => "UVM_TOOLS_DISABLE_COUNTERS"
  | uvmToolsReadProcessMemory => "UVM_TOOLS_READ_PROCESS_MEMORY"
  | uvmToolsWriteProcessMemory => "UVM_TOOLS_WRITE_PROCESS_MEMORY"
  | uvmToolsGetProcessorUuidTable => "UVM_TOOLS_GET_PROCESSOR_UUID_TABLE"
  | uvmMapDynamicParallelismRegion => "UVM_MAP_DYNAMIC_PARALLELISM_REGION"
  | uvmUnmapExternal => "UVM_UNMAP_EXTERNAL"
  | uvmToolsFlushEvents => "UVM_TOOLS_FLUSH_EVENTS"
  | uvmAllocSemaphorePool => "UVM_ALLOC_SEMAPHORE_POOL"
  | uvmCleanUpZombieResources => "UVM_CLEAN_UP_ZOMBIE_RESOURCES"
  | uvmPageableMemAccessOnGpu => "UVM_PAGEABLE_MEM_ACCESS_ON_GPU"
  | uvmPopulatePageable => "UVM_POPULATE_PAGEABLE"
  | uvmValidateVaRange => "UVM_VALIDATE_VA_RANGE"
  | uvmCreateExternalRange => "UVM_CREATE_EXTERNAL_RANGE"
  | uvmMapExternalSparse => "UVM_MAP_EXTERNAL_SPARSE"
  | uvmMmInitialize => "UVM_MM_INITIALIZE"
  | uvmToolsInitEventTrackerV2 => "UVM_TOOLS_INIT_EVENT_TRACKER_V2"
  | uvmToolsGetProcessorUuidTableV2 => "UVM_TOOLS_GET_PROCESSOR_UUID_TABLE_V2"
  | uvmAllocDeviceP2p => "UVM_ALLOC_DEVICE_P2P"
  | uvmClearAllAccessCounters => "UVM_CLEAR_ALL_ACCESS_COUNTERS"
  | uvmDiscard => "UVM_DISCARD"
  | uvmIs8Supported => "UVM_IS_8_SUPPORTED"
  | _ => "UNKNOWN"

/-! ### Lists -/

/-- How many entries of a list are shown, and whether some are left out. -/
def clampCount (count : U64) (max : ℕ) : ℕ × Bool :=
  if max < count.toNat then (max, true) else (count.toNat, false)

theorem clampCount_le (count : U64) (max : ℕ) : (clampCount count max).1 ≤ max := by
  unfold clampCount
  split
  · simp
  · simp only
    omega

def jsonU64Array (values : List U64) : Fragment := .array (values.map fun v => .nat v.toNat)

def jsonUuidArray (values : List (Vector UInt8 16)) : Fragment :=
  .array (values.map fun v => .string (formatUuid v))

def jsonCounterConfigArray (values : List UvmCounterConfig) : Fragment :=
  .array (values.map fun v => (Members.mk
    [.u64 "scope" (zext v.scope), .u64 "name" (zext v.name),
     .str "gpu_uuid" (formatUuid v.gpuUuid), .u64 "state" (zext v.state)]).finish)

def jsonGpuMappingAttributesArray (values : List UvmGpuMappingAttributes) : Fragment :=
  .array (values.map fun v => (Members.mk
    [.str "gpu_uuid" (formatUuid v.gpuUuid), .u64 "gpuMappingType" (zext v.gpuMappingType),
     .u64 "gpuCachingType" (zext v.gpuCachingType), .u64 "gpuFormatType" (zext v.gpuFormatType),
     .u64 "gpuElementBits" (zext v.gpuElementBits),
     .u64 "gpuCompressionType" (zext v.gpuCompressionType)]).finish)

/-! ### Decoders -/

def withParams (T : Type) [Pod T] (argPtr : U64) (onOk : T → Decoding Report) :
    Decoding Report := do
  match ← readPod T .argument argPtr.toNat with
  | some params => onOk params
  | none => return .failed "arg_unreadable"

def decodeInitialize (argPtr : U64) : Decoding Report :=
  withParams UvmInitializeParams argPtr fun p => pure <| .ok
    [.str "flags" (hex p.flags), .i64 "rm_status" (sext p.rmStatus)]

def decodeReserveVa (argPtr : U64) : Decoding Report :=
  withParams UvmReserveVaParams argPtr fun p => pure <| .ok
    [.str "requestedBase" (hex p.requestedBase), .u64 "length" p.length,
     .i64 "rm_status" (sext p.rmStatus)]

def decodeReleaseVa (argPtr : U64) : Decoding Report := decodeReserveVa argPtr

def decodeRegionCommit (argPtr : U64) : Decoding Report :=
  withParams UvmRegionCommitParams argPtr fun p => pure <| .ok
    [.str "requestedBase" (hex p.requestedBase), .u64 "length" p.length,
     .str "streamId" (hex p.streamId), .str "gpu_uuid" (formatUuid p.gpuUuid),
     .i64 "rm_status" (sext p.rmStatus)]

def decodeRegionDecommit (argPtr : U64) : Decoding Report := decodeReserveVa argPtr

def decodeRegionSetStream (argPtr : U64) : Decoding Report :=
  withParams UvmRegionSetStreamParams argPtr fun p => pure <| .ok
    [.str "requestedBase" (hex p.requestedBase), .u64 "length" p.length,
     .str "newStreamId" (hex p.newStreamId), .str "gpu_uuid" (formatUuid p.gpuUuid),
     .i64 "rm_status" (sext p.rmStatus)]

def decodeSetStreamRunning (argPtr : U64) : Decoding Report :=
  withParams UvmSetStreamRunningParams argPtr fun p => pure <| .ok
    [.str "streamId" (hex p.streamId), .i64 "rm_status" (sext p.rmStatus)]

def decodeSetStreamStopped (argPtr : U64) : Decoding Report :=
  withParams UvmSetStreamStoppedParams argPtr fun p => do
    let (count, truncated) := clampCount p.nStreams uvmMaxStreamsPerIoctlCall
    let shown ← prefixOf p.streamIdArray.toList count
    return .ok
        [.u64 "nStreams" p.nStreams, .raw "streamIds" (jsonU64Array shown),
         .bool "truncated" truncated, .i64 "rm_status" (sext p.rmStatus)]

def decodeAddSession (argPtr : U64) : Decoding Report :=
  withParams UvmAddSessionParams argPtr fun p => pure <| .ok
    [.u64 "pidTarget" (zext p.pidTarget), .i64 "rm_status" (sext p.rmStatus)]

def decodeEnableCounters (argPtr : U64) : Decoding Report :=
  withParams UvmEnableCountersParams argPtr fun p => do
    let (count, truncated) := clampCount (zext p.count) uvmMaxCountersPerIoctlCall
    let shown ← prefixOf p.config.toList count
    return .ok
        [.u64 "count" (zext p.count), .raw "config" (jsonCounterConfigArray shown),
         .bool "truncated" truncated, .i64 "rm_status" (sext p.rmStatus)]

def decodeMapCounter (argPtr : U64) : Decoding Report :=
  withParams UvmMapCounterParams argPtr fun p => pure <| .ok
    [.u64 "scope" (zext p.scope), .u64 "counterName" (zext p.counterName),
     .str "gpu_uuid" (formatUuid p.gpuUuid), .str "addr" (hex p.addr),
     .i64 "rm_status" (sext p.rmStatus)]

def decodeCreateEventQueue (argPtr : U64) : Decoding Report :=
  withParams UvmCreateEventQueueParams argPtr fun p => pure <| .ok
    [.u64 "eventQueueIndex" (zext p.eventQueueIndex), .u64 "queueSize" p.queueSize,
     .u64 "notificationCount" p.notificationCount, .u64 "notificationHandle" p.notificationHandle,
     .u64 "timeStampType" (zext p.timestampType), .i64 "rm_status" (sext p.rmStatus)]

def decodeRemoveEventQueue (argPtr : U64) : Decoding Report :=
  withParams UvmRemoveEventQueueParams argPtr fun p => pure <| .ok
    [.u64 "eventQueueIndex" (zext p.eventQueueIndex), .i64 "rm_status" (sext p.rmStatus)]

def decodeMapEventQueue (argPtr : U64) : Decoding Report :=
  withParams UvmMapEventQueueParams argPtr fun p => pure <| .ok
    [.u64 "eventQueueIndex" (zext p.eventQueueIndex),
     .str "userRODataAddr" (hex p.userRoDataAddr), .str "userRWDataAddr" (hex p.userRwDataAddr),
     .str "readIndexAddr" (hex p.readIndexAddr), .str "writeIndexAddr" (hex p.writeIndexAddr),
     .str "queueBufferAddr" (hex p.queueBufferAddr), .i64 "rm_status" (sext p.rmStatus)]

def decodeEventCtrl (argPtr : U64) : Decoding Report :=
  withParams UvmEventCtrlParams argPtr fun p => pure <| .ok
    [.u64 "eventQueueIndex" (zext p.eventQueueIndex), .i64 "eventType" (sext p.eventType),
     .u64 "enable" (zext p.enable), .i64 "rm_status" (sext p.rmStatus)]

def decodeGetGpuUuidTable (argPtr : U64) : Decoding Report :=
  withParams UvmGetGpuUuidTableParams argPtr fun p => do
    let (count, truncated) := clampCount (zext p.validCount) uvmMaxGpusV1
    let shown ← prefixOf p.gpuUuidArray.toList count
    return .ok
        [.u64 "validCount" (zext p.validCount), .raw "gpuUuids" (jsonUuidArray shown),
         .bool "truncated" truncated, .i64 "rm_status" (sext p.rmStatus)]

def decodeRegionSetBacking (argPtr : U64) : Decoding Report :=
  withParams UvmRegionSetBackingParams argPtr fun p => pure <| .ok
    [.str "gpu_uuid" (formatUuid p.gpuUuid), .str "hAllocation" (hex p.hAllocation),
     .str "vaAddr" (hex p.vaAddr), .u64 "regionLength" p.regionLength,
     .i64 "rm_status" (sext p.rmStatus)]

def decodeRegionUnsetBacking (argPtr : U64) : Decoding Report :=
  withParams UvmRegionUnsetBackingParams argPtr fun p => pure <| .ok
    [.str "vaAddr" (hex p.vaAddr), .u64 "regionLength" p.regionLength,
     .i64 "rm_status" (sext p.rmStatus)]

def decodeCreateRangeGroup (argPtr : U64) : Decoding Report :=
  withParams UvmCreateRangeGroupParams argPtr fun p => pure <| .ok
    [.u64 "rangeGroupId" p.rangeGroupId, .i64 "rm_status" (sext p.rmStatus)]

def decodeDestroyRangeGroup (argPtr : U64) : Decoding Report :=
  withParams UvmDestroyRangeGroupParams argPtr fun p => pure <| .ok
    [.u64 "rangeGroupId" p.rangeGroupId, .i64 "rm_status" (sext p.rmStatus)]

def decodeRegisterGpuVaspace (argPtr : U64) : Decoding Report :=
  withParams UvmRegisterGpuVaspaceParams argPtr fun p => pure <| .ok
    [.str "gpu_uuid" (formatUuid p.gpuUuid), .i64 "rmCtrlFd" (sext p.rmCtrlFd),
     .str "hClient" (hex p.hClient), .str "hVaSpace" (hex p.hVaspace),
     .i64 "rm_status" (sext p.rmStatus)]

def decodeUnregisterGpuVaspace (argPtr : U64) : Decoding Report :=
  withParams UvmUnregisterGpuVaspaceParams argPtr fun p => pure <| .ok
    [.str "gpu_uuid" (formatUuid p.gpuUuid), .i64 "rm_status" (sext p.rmStatus)]

def decodeRegisterChannel (argPtr : U64) : Decoding Report :=
  withParams UvmRegisterChannelParams argPtr fun p => pure <| .ok
    [.str "gpu_uuid" (formatUuid p.gpuUuid), .i64 "rmCtrlFd" (sext p.rmCtrlFd),
     .str "hClient" (hex p.hClient), .str "hChannel" (hex p.hChannel), .str "base" (hex p.base),
     .u64 "length" p.length, .i64 "rm_status" (sext p.rmStatus)]

def decodeUnregisterChannel (argPtr : U64) : Decoding Report :=
  withParams UvmUnregisterChannelParams argPtr fun p => pure <| .ok
    [.str "hClient" (hex p.hClient), .str "hChannel" (hex p.hChannel),
     .i64 "rm_status" (sext p.rmStatus)]

def decodeEnablePeerAccess (argPtr : U64) : Decoding Report :=
  withParams UvmPeerAccessParams argPtr fun p => pure <| .ok
    [.str "gpuUuidA" (formatUuid p.gpuUuidA), .str "gpuUuidB" (formatUuid p.gpuUuidB),
     .i64 "rm_status" (sext p.rmStatus)]

def decodeDisablePeerAccess (argPtr : U64) : Decoding Report := decodeEnablePeerAccess argPtr

def decodeSetRangeGroup (argPtr : U64) : Decoding Report :=
  withParams UvmSetRangeGroupParams argPtr fun p => pure <| .ok
    [.u64 "rangeGroupId" p.rangeGroupId, .str "requestedBase" (hex p.requestedBase),
     .u64 "length" p.length, .i64 "rm_status" (sext p.rmStatus)]

def decodeMapExternalAllocation (argPtr : U64) : Decoding Report :=
  withParams UvmMapExternalAllocationParams argPtr fun p => do
    let (count, truncated) := clampCount p.gpuAttributesCount uvmMaxGpus
    let shown ← prefixOf p.perGpuAttributes.toList count
    return .ok
        [.str "base" (hex p.base), .u64 "length" p.length, .u64 "offset" p.offset,
         .u64 "gpuAttributesCount" p.gpuAttributesCount,
         .raw "perGpuAttributes" (jsonGpuMappingAttributesArray shown),
         .bool "truncated" truncated, .i64 "rmCtrlFd" (sext p.rmCtrlFd),
         .str "hClient" (hex p.hClient), .str "hMemory" (hex p.hMemory),
         .i64 "rm_status" (sext p.rmStatus)]

def decodeFree (argPtr : U64) : Decoding Report :=
  withParams UvmFreeParams argPtr fun p => pure <| .ok
    [.str "base" (hex p.base), .i64 "rm_status" (sext p.rmStatus)]

def decodeMemMap (argPtr : U64) : Decoding Report :=
  withParams UvmMemMapParams argPtr fun p => pure <| .ok
    [.str "regionBase" (hex p.regionBase), .u64 "regionLength" p.regionLength,
     .i64 "rm_status" (sext p.rmStatus)]

def decodeRegisterGpu (argPtr : U64) : Decoding Report :=
  withParams UvmRegisterGpuParams argPtr fun p => pure <| .ok
    [.str "gpu_uuid" (formatUuid p.gpuUuid), .bool "numaEnabled" (p.numaEnabled != 0),
     .i64 "numaNodeId" (sext p.numaNodeId), .i64 "rmCtrlFd" (sext p.rmCtrlFd),
     .str "hClient" (hex p.hClient), .str "hSmcPartRef" (hex p.hSmcPartRef),
     .i64 "rm_status" (sext p.rmStatus)]

def decodeUnregisterGpu (argPtr : U64) : Decoding Report :=
  withParams UvmUnregisterGpuParams argPtr fun p => pure <| .ok
    [.str "gpu_uuid" (formatUuid p.gpuUuid), .i64 "rm_status" (sext p.rmStatus)]

def decodePageableMemAccess (argPtr : U64) : Decoding Report :=
  withParams UvmPageableMemAccessParams argPtr fun p => pure <| .ok
    [.bool "pageableMemAccess" (p.pageableMemAccess != 0), .i64 "rm_status" (sext p.rmStatus)]

def decodePreventMigrationRangeGroups (argPtr : U64) : Decoding Report :=
  withParams UvmRangeGroupsParams argPtr fun p => do
    let (count, truncated) := clampCount p.numGroupIds uvmMaxRangeGroupsPerIoctlCall
    let shown ← prefixOf p.rangeGroupIds.toList count
    return .ok
        [.u64 "numGroupIds" p.numGroupIds, .raw "rangeGroupIds" (jsonU64Array shown),
         .bool "truncated" truncated, .i64 "rm_status" (sext p.rmStatus)]

def decodeAllowMigrationRangeGroups (argPtr : U64) : Decoding Report :=
  decodePreventMigrationRangeGroups argPtr

def decodeSetPreferredLocation (argPtr : U64) : Decoding Report :=
  withParams UvmSetPreferredLocationParams argPtr fun p => pure <| .ok
    [.str "requestedBase" (hex p.requestedBase), .u64 "length" p.length,
     .str "preferredLocation" (formatUuid p.preferredLocation),
     .i64 "preferredCpuNumaNode" (sext p.preferredCpuNumaNode),
     .i64 "rm_status" (sext p.rmStatus)]

def decodeUnsetPreferredLocation (argPtr : U64) : Decoding Report := decodeReserveVa argPtr

def decodeEnableReadDuplication (argPtr : U64) : Decoding Report := decodeReserveVa argPtr

def decodeDisableReadDuplication (argPtr : U64) : Decoding Report := decodeReserveVa argPtr

def decodeSetAccessedBy (argPtr : U64) : Decoding Report :=
  withParams UvmSetAccessedByParams argPtr fun p => pure <| .ok
    [.str "requestedBase" (hex p.requestedBase), .u64 "length" p.length,
     .str "accessedByUuid" (formatUuid p.accessedByUuid), .i64 "rm_status" (sext p.rmStatus)]

def decodeUnsetAccessedBy (argPtr : U64) : Decoding Report := decodeSetAccessedBy argPtr

def decodeMigrate (argPtr : U64) : Decoding Report :=
  withParams UvmMigrateParams argPtr fun p => pure <| .ok
    [.str "base" (hex p.base), .u64 "length" p.length,
     .str "destinationUuid" (formatUuid p.destinationUuid), .str "flags" (hex p.flags),
     .str "semaphoreAddress" (hex p.semaphoreAddress),
     .u64 "semaphorePayload" (zext p.semaphorePayload), .i64 "cpuNumaNode" (sext p.cpuNumaNode),
     .str "userSpaceStart" (hex p.userSpaceStart), .u64 "userSpaceLength" p.userSpaceLength,
     .i64 "rm_status" (sext p.rmStatus)]

def decodeMigrateRangeGroup (argPtr : U64) : Decoding Report :=
  withParams UvmMigrateRangeGroupParams argPtr fun p => pure <| .ok
    [.u64 "rangeGroupId" p.rangeGroupId, .str "destinationUuid" (formatUuid p.destinationUuid),
     .i64 "rm_status" (sext p.rmStatus)]

def decodeEnableSystemWideAtomics (argPtr : U64) : Decoding Report :=
  withParams UvmGpuUuidParams argPtr fun p => pure <| .ok
    [.str "gpu_uuid" (formatUuid p.gpuUuid), .i64 "rm_status" (sext p.rmStatus)]

def decodeDisableSystemWideAtomics (argPtr : U64) : Decoding Report :=
  decodeEnableSystemWideAtomics argPtr

def decodeToolsInitEventTracker (argPtr : U64) : Decoding Report :=
  withParams UvmToolsInitEventTrackerParams argPtr fun p => pure <| .ok
    [.str "queueBuffer" (hex p.queueBuffer), .u64 "queueBufferSize" p.queueBufferSize,
     .str "controlBuffer" (hex p.controlBuffer), .str "processor" (formatUuid p.processor),
     .u64 "allProcessors" (zext p.allProcessors), .u64 "uvmFd" (zext p.uvmFd),
     .i64 "rm_status" (sext p.rmStatus)]

def decodeToolsSetNotificationThreshold (argPtr : U64) : Decoding Report :=
  withParams UvmToolsSetNotificationThresholdParams argPtr fun p => pure <| .ok
    [.u64 "notificationThreshold" (zext p.notificationThreshold),
     .i64 "rm_status" (sext p.rmStatus)]

def decodeToolsEventQueueEnableEvents (argPtr : U64) : Decoding Report :=
  withParams UvmToolsFlagsParams argPtr fun p => pure <| .ok
    [.str "eventTypeFlags" (hex p.flags), .i64 "rm_status" (sext p.rmStatus)]

def decodeToolsEventQueueDisableEvents (argPtr : U64) : Decoding Report :=
  decodeToolsEventQueueEnableEvents argPtr

def decodeToolsEnableCounters (argPtr : U64) : Decoding Report :=
  withParams UvmToolsFlagsParams argPtr fun p => pure <| .ok
    [.str "counterTypeFlags" (hex p.flags), .i64 "rm_status" (sext p.rmStatus)]

def decodeToolsDisableCounters (argPtr : U64) : Decoding Report :=
  decodeToolsEnableCounters argPtr

def decodeToolsReadProcessMemory (argPtr : U64) : Decoding Report :=
  withParams UvmToolsReadProcessMemoryParams argPtr fun p => pure <| .ok
    [.str "buffer" (hex p.buffer), .u64 "size" p.size, .str "targetVa" (hex p.targetVa),
     .u64 "bytesRead" p.bytesRead, .i64 "rm_status" (sext p.rmStatus)]

def decodeToolsWriteProcessMemory (argPtr : U64) : Decoding Report :=
  withParams UvmToolsWriteProcessMemoryParams argPtr fun p => pure <| .ok
    [.str "buffer" (hex p.buffer), .u64 "size" p.size, .str "targetVa" (hex p.targetVa),
     .u64 "bytesWritten" p.bytesWritten, .i64 "rm_status" (sext p.rmStatus)]

def decodeToolsGetProcessorUuidTable (argPtr : U64) : Decoding Report :=
  withParams UvmToolsGetProcessorUuidTableParams argPtr fun p => pure <| .ok
    [.str "tablePtr" (hex p.tablePtr), .i64 "rm_status" (sext p.rmStatus)]

def decodeMapDynamicParallelismRegion (argPtr : U64) : Decoding Report :=
  withParams UvmBaseLengthGpuUuidParams argPtr fun p => pure <| .ok
    [.str "base" (hex p.base), .u64 "length" p.length, .str "gpu_uuid" (formatUuid p.gpuUuid),
     .i64 "rm_status" (sext p.rmStatus)]

def decodeUnmapExternal (argPtr : U64) : Decoding Report :=
  decodeMapDynamicParallelismRegion argPtr

def decodeToolsFlushEvents (argPtr : U64) : Decoding Report :=
  withParams UvmStatusParams argPtr fun p => pure <| .ok
    [.i64 "rm_status" (sext p.rmStatus)]

def decodeAllocSemaphorePool (argPtr : U64) : Decoding Report :=
  withParams UvmAllocSemaphorePoolParams argPtr fun p => do
    let (count, truncated) := clampCount p.gpuAttributesCount uvmMaxGpus
    let shown ← prefixOf p.perGpuAttributes.toList count
    return .ok
        [.str "base" (hex p.base), .u64 "length" p.length,
         .u64 "gpuAttributesCount" p.gpuAttributesCount,
         .raw "perGpuAttributes" (jsonGpuMappingAttributesArray shown),
         .bool "truncated" truncated, .i64 "rm_status" (sext p.rmStatus)]

def decodeCleanUpZombieResources (argPtr : U64) : Decoding Report := decodeToolsFlushEvents argPtr

def decodePageableMemAccessOnGpu (argPtr : U64) : Decoding Report :=
  withParams UvmPageableMemAccessOnGpuParams argPtr fun p => pure <| .ok
    [.str "gpu_uuid" (formatUuid p.gpuUuid), .bool "pageableMemAccess" (p.pageableMemAccess != 0),
     .i64 "rm_status" (sext p.rmStatus)]

def decodePopulatePageable (argPtr : U64) : Decoding Report :=
  withParams UvmPopulatePageableParams argPtr fun p => pure <| .ok
    [.str "base" (hex p.base), .u64 "length" p.length, .str "flags" (hex p.flags),
     .i64 "rm_status" (sext p.rmStatus)]

def decodeValidateVaRange (argPtr : U64) : Decoding Report :=
  withParams UvmValidateVaRangeParams argPtr fun p => pure <| .ok
    [.str "base" (hex p.base), .u64 "length" p.length, .i64 "rm_status" (sext p.rmStatus)]

def decodeCreateExternalRange (argPtr : U64) : Decoding Report :=
  withParams UvmCreateExternalRangeParams argPtr fun p => pure <| .ok
    [.str "base" (hex p.base), .u64 "length" p.length, .i64 "rm_status" (sext p.rmStatus)]

def decodeMapExternalSparse (argPtr : U64) : Decoding Report :=
  decodeMapDynamicParallelismRegion argPtr

def decodeMmInitialize (argPtr : U64) : Decoding Report :=
  withParams UvmMmInitializeParams argPtr fun p => pure <| .ok
    [.i64 "uvmFd" (sext p.uvmFd), .i64 "rm_status" (sext p.rmStatus)]

def decodeAllocDeviceP2p (argPtr : U64) : Decoding Report :=
  withParams UvmAllocDeviceP2pParams argPtr fun p => pure <| .ok
    [.str "base" (hex p.base), .u64 "length" p.length, .u64 "offset" p.offset,
     .str "gpu_uuid" (formatUuid p.gpuUuid), .i64 "rmCtrlFd" (sext p.rmCtrlFd),
     .str "hClient" (hex p.hClient), .str "hMemory" (hex p.hMemory),
     .i64 "rm_status" (sext p.rmStatus)]

def decodeClearAllAccessCounters (argPtr : U64) : Decoding Report := decodeToolsFlushEvents argPtr

def decodeDiscard (argPtr : U64) : Decoding Report :=
  withParams UvmDiscardParams argPtr fun p => pure <| .ok
    [.str "base" (hex p.base), .u64 "length" p.length, .str "flags" (hex p.flags),
     .i64 "rm_status" (sext p.rmStatus)]

def decodeIs8Supported (argPtr : U64) : Decoding Report :=
  withParams UvmIs8SupportedParams argPtr fun p => pure <| .ok
    [.bool "is8Supported" (p.is8Supported != 0), .i64 "rm_status" (sext p.rmStatus)]

def decodeUnknown (argPtr : U64) (maxBlob : ℕ) : Decoding Report := do
  let readLen := min (max maxBlob 16) 64
  match ← readBytes .argument argPtr.toNat readLen with
  | some bytes => return Report.mk [.str "blob_hex" (← hexBytes bytes)] "unknown_cmd"
  | none => return .failed "arg_unreadable"

def decodeUvmIoctl (m : IoctlMeta) (argPtr : U64) (mode : IoctlDecodeMode) (maxBlob : ℕ) :
    Decoding Report :=
  if mode = .header then return .failed "header"
  else if normalizeUvmCmd m.raw = uvmDeinitialize then return .failed "ok"
  else if argPtr = 0 then return .failed "arg_null"
  else
    match normalizeUvmCmd m.raw with
    | uvmInitialize => decodeInitialize argPtr
    | uvmReserveVa => decodeReserveVa argPtr
    | uvmReleaseVa => decodeReleaseVa argPtr
    | uvmRegionCommit => decodeRegionCommit argPtr
    | uvmRegionDecommit => decodeRegionDecommit argPtr
    | uvmRegionSetStream => decodeRegionSetStream argPtr
    | uvmSetStreamRunning => decodeSetStreamRunning argPtr
    | uvmSetStreamStopped => decodeSetStreamStopped argPtr
    | uvmAddSession => decodeAddSession argPtr
    | uvmEnableCounters => decodeEnableCounters argPtr
    | uvmMapCounter => decodeMapCounter argPtr
    | uvmCreateEventQueue => decodeCreateEventQueue argPtr
    | uvmRemoveEventQueue => decodeRemoveEventQueue argPtr
    | uvmMapEventQueue => decodeMapEventQueue argPtr
    | uvmEventCtrl => decodeEventCtrl argPtr
    | uvmGetGpuUuidTable => decodeGetGpuUuidTable argPtr
    | uvmRegionSetBacking => decodeRegionSetBacking argPtr
    | uvmRegionUnsetBacking => decodeRegionUnsetBacking argPtr
    | uvmCreateRangeGroup => decodeCreateRangeGroup argPtr
    | uvmDestroyRangeGroup => decodeDestroyRangeGroup argPtr
    | uvmRegisterGpuVaspace => decodeRegisterGpuVaspace argPtr
    | uvmUnregisterGpuVaspace => decodeUnregisterGpuVaspace argPtr
    | uvmRegisterChannel => decodeRegisterChannel argPtr
    | uvmUnregisterChannel => decodeUnregisterChannel argPtr
    | uvmEnablePeerAccess => decodeEnablePeerAccess argPtr
    | uvmDisablePeerAccess => decodeDisablePeerAccess argPtr
    | uvmSetRangeGroup => decodeSetRangeGroup argPtr
    | uvmMapExternalAllocation => decodeMapExternalAllocation argPtr
    | uvmFree => decodeFree argPtr
    | uvmMemMap => decodeMemMap argPtr
    | uvmRegisterGpu => decodeRegisterGpu argPtr
    | uvmUnregisterGpu => decodeUnregisterGpu argPtr
    | uvmPageableMemAccess => decodePageableMemAccess argPtr
    | uvmPreventMigrationRangeGroups => decodePreventMigrationRangeGroups argPtr
    | uvmAllowMigrationRangeGroups => decodeAllowMigrationRangeGroups argPtr
    | uvmSetPreferredLocation => decodeSetPreferredLocation argPtr
    | uvmUnsetPreferredLocation => decodeUnsetPreferredLocation argPtr
    | uvmEnableReadDuplication => decodeEnableReadDuplication argPtr
    | uvmDisableReadDuplication => decodeDisableReadDuplication argPtr
    | uvmSetAccessedBy => decodeSetAccessedBy argPtr
    | uvmUnsetAccessedBy => decodeUnsetAccessedBy argPtr
    | uvmMigrate => decodeMigrate argPtr
    | uvmMigrateRangeGroup => decodeMigrateRangeGroup argPtr
    | uvmEnableSystemWideAtomics => decodeEnableSystemWideAtomics argPtr
    | uvmDisableSystemWideAtomics => decodeDisableSystemWideAtomics argPtr
    | uvmToolsInitEventTracker | uvmToolsInitEventTrackerV2 => decodeToolsInitEventTracker argPtr
    | uvmToolsSetNotificationThreshold => decodeToolsSetNotificationThreshold argPtr
    | uvmToolsEventQueueEnableEvents => decodeToolsEventQueueEnableEvents argPtr
    | uvmToolsEventQueueDisableEvents => decodeToolsEventQueueDisableEvents argPtr
    | uvmToolsEnableCounters => decodeToolsEnableCounters argPtr
    | uvmToolsDisableCounters => decodeToolsDisableCounters argPtr
    | uvmToolsReadProcessMemory => decodeToolsReadProcessMemory argPtr
    | uvmToolsWriteProcessMemory => decodeToolsWriteProcessMemory argPtr
    | uvmToolsGetProcessorUuidTable | uvmToolsGetProcessorUuidTableV2 =>
      decodeToolsGetProcessorUuidTable argPtr
    | uvmMapDynamicParallelismRegion => decodeMapDynamicParallelismRegion argPtr
    | uvmUnmapExternal => decodeUnmapExternal argPtr
    | uvmToolsFlushEvents => decodeToolsFlushEvents argPtr
    | uvmAllocSemaphorePool => decodeAllocSemaphorePool argPtr
    | uvmCleanUpZombieResources => decodeCleanUpZombieResources argPtr
    | uvmPageableMemAccessOnGpu => decodePageableMemAccessOnGpu argPtr
    | uvmPopulatePageable => decodePopulatePageable argPtr
    | uvmValidateVaRange => decodeValidateVaRange argPtr
    | uvmCreateExternalRange => decodeCreateExternalRange argPtr
    | uvmMapExternalSparse => decodeMapExternalSparse argPtr
    | uvmMmInitialize => decodeMmInitialize argPtr
    | uvmAllocDeviceP2p => decodeAllocDeviceP2p argPtr
    | uvmClearAllAccessCounters => decodeClearAllAccessCounters argPtr
    | uvmDiscard => decodeDiscard argPtr
    | uvmIs8Supported => decodeIs8Supported argPtr
    | _ => decodeUnknown argPtr maxBlob

end CudaTrace.Decode.Uvm
