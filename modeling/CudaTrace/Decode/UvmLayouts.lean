import CudaTrace.Decode.Remote

/-!
# Unified memory structures (decode/ioctl_uvm.rs)

Arguments of the commands of the unified memory driver.
-/

namespace CudaTrace.Decode
open CudaTrace.Base
open CudaTrace.Ptrace (U32 U64 I32 I64)

abbrev uvmMaxStreamsPerIoctlCall : ℕ := 32
abbrev uvmMaxCountersPerIoctlCall : ℕ := 32
abbrev uvmMaxRangeGroupsPerIoctlCall : ℕ := 32
abbrev uvmMaxGpusV1 : ℕ := 32
abbrev uvmMaxGpus : ℕ := 256

structure UvmInitializeParams where
  flags : U64
  rmStatus : I32

instance : Pod UvmInitializeParams := .ofCtor UvmInitializeParams.mk

structure UvmReserveVaParams where
  (requestedBase length : U64)
  rmStatus : I32

instance : Pod UvmReserveVaParams := .ofCtor UvmReserveVaParams.mk

structure UvmRegionCommitParams where
  (requestedBase length streamId : U64)
  gpuUuid : Vector UInt8 16
  rmStatus : I32

instance : Pod UvmRegionCommitParams := .ofCtor UvmRegionCommitParams.mk

structure UvmRegionSetStreamParams where
  (requestedBase length newStreamId : U64)
  gpuUuid : Vector UInt8 16
  rmStatus : I32

instance : Pod UvmRegionSetStreamParams := .ofCtor UvmRegionSetStreamParams.mk

structure UvmSetStreamRunningParams where
  streamId : U64
  rmStatus : I32

instance : Pod UvmSetStreamRunningParams := .ofCtor UvmSetStreamRunningParams.mk

structure UvmSetStreamStoppedParams where
  streamIdArray : Vector U64 uvmMaxStreamsPerIoctlCall
  nStreams : U64
  rmStatus : I32

instance : Pod UvmSetStreamStoppedParams := .ofCtor UvmSetStreamStoppedParams.mk

structure UvmAddSessionParams where
  pidTarget : U32
  rmStatus : I32

instance : Pod UvmAddSessionParams := .ofCtor UvmAddSessionParams.mk

structure UvmCounterConfig where
  (scope name : U32)
  gpuUuid : Vector UInt8 16
  state : U32

instance : Pod UvmCounterConfig := .ofCtor UvmCounterConfig.mk

structure UvmEnableCountersParams where
  config : Vector UvmCounterConfig uvmMaxCountersPerIoctlCall
  count : U32
  rmStatus : I32

instance : Pod UvmEnableCountersParams := .ofCtor UvmEnableCountersParams.mk

structure UvmMapCounterParams where
  (scope counterName : U32)
  gpuUuid : Vector UInt8 16
  addr : U64
  rmStatus : I32

instance : Pod UvmMapCounterParams := .ofCtor UvmMapCounterParams.mk

structure UvmCreateEventQueueParams where
  eventQueueIndex : U32
  (queueSize notificationCount notificationHandle : U64)
  timestampType : U32
  rmStatus : I32

instance : Pod UvmCreateEventQueueParams := .ofCtor UvmCreateEventQueueParams.mk

structure UvmRemoveEventQueueParams where
  eventQueueIndex : U32
  rmStatus : I32

instance : Pod UvmRemoveEventQueueParams := .ofCtor UvmRemoveEventQueueParams.mk

structure UvmMapEventQueueParams where
  eventQueueIndex : U32
  (userRoDataAddr userRwDataAddr readIndexAddr writeIndexAddr queueBufferAddr : U64)
  rmStatus : I32

instance : Pod UvmMapEventQueueParams := .ofCtor UvmMapEventQueueParams.mk

structure UvmEventCtrlParams where
  eventQueueIndex : U32
  eventType : I32
  enable : U32
  rmStatus : I32

instance : Pod UvmEventCtrlParams := .ofCtor UvmEventCtrlParams.mk

structure UvmGetGpuUuidTableParams where
  gpuUuidArray : Vector (Vector UInt8 16) uvmMaxGpusV1
  validCount : U32
  rmStatus : I32

instance : Pod UvmGetGpuUuidTableParams := .ofCtor UvmGetGpuUuidTableParams.mk

structure UvmRegionSetBackingParams where
  gpuUuid : Vector UInt8 16
  hAllocation : U32
  (vaAddr regionLength : U64)
  rmStatus : I32

instance : Pod UvmRegionSetBackingParams := .ofCtor UvmRegionSetBackingParams.mk

structure UvmRegionUnsetBackingParams where
  (vaAddr regionLength : U64)
  rmStatus : I32

instance : Pod UvmRegionUnsetBackingParams := .ofCtor UvmRegionUnsetBackingParams.mk

structure UvmCreateRangeGroupParams where
  rangeGroupId : U64
  rmStatus : I32

instance : Pod UvmCreateRangeGroupParams := .ofCtor UvmCreateRangeGroupParams.mk

structure UvmDestroyRangeGroupParams where
  rangeGroupId : U64
  rmStatus : I32

instance : Pod UvmDestroyRangeGroupParams := .ofCtor UvmDestroyRangeGroupParams.mk

structure UvmRegisterGpuVaspaceParams where
  gpuUuid : Vector UInt8 16
  rmCtrlFd : I32
  (hClient hVaspace : U32)
  rmStatus : I32

instance : Pod UvmRegisterGpuVaspaceParams := .ofCtor UvmRegisterGpuVaspaceParams.mk

structure UvmUnregisterGpuVaspaceParams where
  gpuUuid : Vector UInt8 16
  rmStatus : I32

instance : Pod UvmUnregisterGpuVaspaceParams := .ofCtor UvmUnregisterGpuVaspaceParams.mk

structure UvmRegisterChannelParams where
  gpuUuid : Vector UInt8 16
  rmCtrlFd : I32
  (hClient hChannel : U32)
  (base length : U64)
  rmStatus : I32

instance : Pod UvmRegisterChannelParams := .ofCtor UvmRegisterChannelParams.mk

structure UvmUnregisterChannelParams where
  (hClient hChannel : U32)
  rmStatus : I32

instance : Pod UvmUnregisterChannelParams := .ofCtor UvmUnregisterChannelParams.mk

structure UvmPeerAccessParams where
  (gpuUuidA gpuUuidB : Vector UInt8 16)
  rmStatus : I32

instance : Pod UvmPeerAccessParams := .ofCtor UvmPeerAccessParams.mk

structure UvmSetRangeGroupParams where
  (rangeGroupId requestedBase length : U64)
  rmStatus : I32

instance : Pod UvmSetRangeGroupParams := .ofCtor UvmSetRangeGroupParams.mk

structure UvmGpuMappingAttributes where
  gpuUuid : Vector UInt8 16
  (gpuMappingType gpuCachingType gpuFormatType gpuElementBits gpuCompressionType : U32)

instance : Pod UvmGpuMappingAttributes := .ofCtor UvmGpuMappingAttributes.mk

structure UvmMapExternalAllocationParams where
  (base length offset : U64)
  perGpuAttributes : Vector UvmGpuMappingAttributes uvmMaxGpus
  gpuAttributesCount : U64
  rmCtrlFd : I32
  (hClient hMemory : U32)
  rmStatus : I32

instance : Pod UvmMapExternalAllocationParams := .ofCtor UvmMapExternalAllocationParams.mk

structure UvmFreeParams where
  base : U64
  rmStatus : I32

instance : Pod UvmFreeParams := .ofCtor UvmFreeParams.mk

structure UvmMemMapParams where
  (regionBase regionLength : U64)
  rmStatus : I32

instance : Pod UvmMemMapParams := .ofCtor UvmMemMapParams.mk

structure UvmRegisterGpuParams where
  gpuUuid : Vector UInt8 16
  numaEnabled : U8
  pad0 : Vector UInt8 3
  (numaNodeId rmCtrlFd : I32)
  (hClient hSmcPartRef : U32)
  rmStatus : I32

instance : Pod UvmRegisterGpuParams := .ofCtor UvmRegisterGpuParams.mk

structure UvmUnregisterGpuParams where
  gpuUuid : Vector UInt8 16
  rmStatus : I32

instance : Pod UvmUnregisterGpuParams := .ofCtor UvmUnregisterGpuParams.mk

structure UvmPageableMemAccessParams where
  pageableMemAccess : U8
  pad0 : Vector UInt8 3
  rmStatus : I32

instance : Pod UvmPageableMemAccessParams := .ofCtor UvmPageableMemAccessParams.mk

structure UvmRangeGroupsParams where
  rangeGroupIds : Vector U64 uvmMaxRangeGroupsPerIoctlCall
  numGroupIds : U64
  rmStatus : I32

instance : Pod UvmRangeGroupsParams := .ofCtor UvmRangeGroupsParams.mk

structure UvmSetPreferredLocationParams where
  (requestedBase length : U64)
  preferredLocation : Vector UInt8 16
  (preferredCpuNumaNode rmStatus : I32)

instance : Pod UvmSetPreferredLocationParams := .ofCtor UvmSetPreferredLocationParams.mk

structure UvmSetAccessedByParams where
  (requestedBase length : U64)
  accessedByUuid : Vector UInt8 16
  rmStatus : I32

instance : Pod UvmSetAccessedByParams := .ofCtor UvmSetAccessedByParams.mk

structure UvmMigrateParams where
  (base length : U64)
  destinationUuid : Vector UInt8 16
  flags : U32
  semaphoreAddress : U64
  semaphorePayload : U32
  cpuNumaNode : I32
  (userSpaceStart userSpaceLength : U64)
  rmStatus : I32

instance : Pod UvmMigrateParams := .ofCtor UvmMigrateParams.mk

structure UvmMigrateRangeGroupParams where
  rangeGroupId : U64
  destinationUuid : Vector UInt8 16
  rmStatus : I32

instance : Pod UvmMigrateRangeGroupParams := .ofCtor UvmMigrateRangeGroupParams.mk

structure UvmGpuUuidParams where
  gpuUuid : Vector UInt8 16
  rmStatus : I32

instance : Pod UvmGpuUuidParams := .ofCtor UvmGpuUuidParams.mk

structure UvmToolsInitEventTrackerParams where
  (queueBuffer queueBufferSize controlBuffer : U64)
  processor : Vector UInt8 16
  (allProcessors uvmFd : U32)
  rmStatus : I32

instance : Pod UvmToolsInitEventTrackerParams := .ofCtor UvmToolsInitEventTrackerParams.mk

structure UvmToolsSetNotificationThresholdParams where
  notificationThreshold : U32
  rmStatus : I32

instance : Pod UvmToolsSetNotificationThresholdParams :=
  .ofCtor UvmToolsSetNotificationThresholdParams.mk

structure UvmToolsFlagsParams where
  flags : U64
  rmStatus : I32

instance : Pod UvmToolsFlagsParams := .ofCtor UvmToolsFlagsParams.mk

structure UvmToolsReadProcessMemoryParams where
  (buffer size targetVa bytesRead : U64)
  rmStatus : I32

instance : Pod UvmToolsReadProcessMemoryParams := .ofCtor UvmToolsReadProcessMemoryParams.mk

structure UvmToolsWriteProcessMemoryParams where
  (buffer size targetVa bytesWritten : U64)
  rmStatus : I32

instance : Pod UvmToolsWriteProcessMemoryParams := .ofCtor UvmToolsWriteProcessMemoryParams.mk

structure UvmToolsGetProcessorUuidTableParams where
  tablePtr : U64
  rmStatus : I32

instance : Pod UvmToolsGetProcessorUuidTableParams :=
  .ofCtor UvmToolsGetProcessorUuidTableParams.mk

structure UvmBaseLengthGpuUuidParams where
  (base length : U64)
  gpuUuid : Vector UInt8 16
  rmStatus : I32

instance : Pod UvmBaseLengthGpuUuidParams := .ofCtor UvmBaseLengthGpuUuidParams.mk

structure UvmAllocSemaphorePoolParams where
  (base length : U64)
  perGpuAttributes : Vector UvmGpuMappingAttributes uvmMaxGpus
  gpuAttributesCount : U64
  rmStatus : I32

instance : Pod UvmAllocSemaphorePoolParams := .ofCtor UvmAllocSemaphorePoolParams.mk

structure UvmStatusParams where
  rmStatus : I32

instance : Pod UvmStatusParams := .ofCtor UvmStatusParams.mk

structure UvmPageableMemAccessOnGpuParams where
  gpuUuid : Vector UInt8 16
  pageableMemAccess : U8
  pad0 : Vector UInt8 3
  rmStatus : I32

instance : Pod UvmPageableMemAccessOnGpuParams := .ofCtor UvmPageableMemAccessOnGpuParams.mk

structure UvmPopulatePageableParams where
  (base length : U64)
  flags : U32
  rmStatus : I32

instance : Pod UvmPopulatePageableParams := .ofCtor UvmPopulatePageableParams.mk

structure UvmValidateVaRangeParams where
  (base length : U64)
  rmStatus : I32

instance : Pod UvmValidateVaRangeParams := .ofCtor UvmValidateVaRangeParams.mk

structure UvmCreateExternalRangeParams where
  (base length : U64)
  rmStatus : I32

instance : Pod UvmCreateExternalRangeParams := .ofCtor UvmCreateExternalRangeParams.mk

structure UvmMmInitializeParams where
  (uvmFd rmStatus : I32)

instance : Pod UvmMmInitializeParams := .ofCtor UvmMmInitializeParams.mk

structure UvmAllocDeviceP2pParams where
  (base length offset : U64)
  gpuUuid : Vector UInt8 16
  rmCtrlFd : I32
  (hClient hMemory : U32)
  rmStatus : I32

instance : Pod UvmAllocDeviceP2pParams := .ofCtor UvmAllocDeviceP2pParams.mk

structure UvmDiscardParams where
  (base length flags : U64)
  rmStatus : I32

instance : Pod UvmDiscardParams := .ofCtor UvmDiscardParams.mk

structure UvmIs8SupportedParams where
  is8Supported : U32
  rmStatus : I32

instance : Pod UvmIs8SupportedParams := .ofCtor UvmIs8SupportedParams.mk

end CudaTrace.Decode
