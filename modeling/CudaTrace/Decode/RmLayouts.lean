import CudaTrace.Decode.Nvidia

/-!
# Resource manager structures (decode/ioctl_rm.rs)

Arguments of the escapes and parameter blocks of the control commands.
-/

namespace CudaTrace.Decode
open CudaTrace.Base
open CudaTrace.Ptrace (U32 U64 I32 I64)

abbrev maxNumaAddresses : ℕ := 16
abbrev maxCtrlListItems : ℕ := 64
abbrev maxInnerPreviewWords : ℕ := 8
abbrev nv0000CtrlSystemMaxP2pGroupGpus : ℕ := 8
abbrev nv0000CtrlGpuMaxAttachedGpus : ℕ := 32
abbrev nv0000CtrlGpuMaxProbedGpus : ℕ := 32
abbrev nv0000CtrlGpuMaxActiveDevices : ℕ := 256
abbrev nv0080CtrlGpuClasslistMaxSize : ℕ := 200
abbrev nv0080CtrlFbCapsTblSize : ℕ := 3
abbrev nv0080CtrlGrCapsTblSize : ℕ := 23
abbrev nv2080CtrlGpuInfoMaxListSize : ℕ := 70
abbrev nv2080GpuMaxNameStringLength : ℕ := 64
abbrev nv2080GpuMaxEnginesListSize : ℕ := 84
abbrev nv2080CtrlGpuEccUnitCount : ℕ := 41
abbrev nv2080GpuMaxGidLength : ℕ := 256
abbrev nv2080CtrlFbInfoMaxListSize : ℕ := 128
abbrev nv2080CtrlBusInfoMaxListSize : ℕ := 52
abbrev nv2080CtrlBusMaxPciBars : ℕ := 8
abbrev nv2080CtrlPcieSupportedGpuAtomicsOpTypeCount : ℕ := 13
abbrev nv2080CtrlGrGetGlobalSmOrderMaxSmCount : ℕ := 512
abbrev nv2080CtrlCeCapsTblSize : ℕ := 2
abbrev nv2080CtrlMaxCes : ℕ := 64
abbrev nv2080GspMaxBuildVersionLength : ℕ := 64
abbrev nv2080CtrlGrmgrGrFsInfoMaxQueries : ℕ := 96
abbrev nv0000SyncGpuBoostMaxGroups : ℕ := 16
abbrev nvMaxDevices : ℕ := 32
abbrev maxWords : ℕ := 64

structure RmI2cAccessParams where
  (hClient hDevice paramSize : U32)
  paramStructPtr : U64
  status : U32

instance : Pod RmI2cAccessParams := .ofCtor RmI2cAccessParams.mk

structure RmIdleChannelsParams where
  (hClient hDevice hChannel numChannels : U32)
  (phClients phDevices phChannels : U64)
  (flags timeout status : U32)

instance : Pod RmIdleChannelsParams := .ofCtor RmIdleChannelsParams.mk

structure RmVidHeapControlPrefix where
  (hRoot hObjectParent function hVaspace : U32)
  ivcHeapNumber : I16
  pad0 : U16
  status : U32
  (total free : U64)

instance : Pod RmVidHeapControlPrefix := .ofCtor RmVidHeapControlPrefix.mk

structure RmVidHeapAllocSizeData where
  (owner hMemory memType flags attr format comprCovg zcullCovg partitionStride width height : U32)
  (size alignment offset limit address rangeBegin rangeEnd : U64)
  (attr2 ctagOffset : U32)
  numaNode : I32

instance : Pod RmVidHeapAllocSizeData := .ofCtor RmVidHeapAllocSizeData.mk

structure RmVidHeapFreeData where
  (owner hMemory flags : U32)

instance : Pod RmVidHeapFreeData := .ofCtor RmVidHeapFreeData.mk

structure RmVidHeapAllocOsDescData where
  (hMemory memType flags attr attr2 : U32)
  (descriptor limit : U64)
  descriptorType : U32

instance : Pod RmVidHeapAllocOsDescData := .ofCtor RmVidHeapAllocOsDescData.mk

structure RmAccessRegistryParams where
  (hClient hObject accessType devNodeLength : U32)
  pDevNode : U64
  parmStrLength : U32
  pParmStr : U64
  binaryDataLength : U32
  pBinaryData : U64
  (data entry status : U32)

instance : Pod RmAccessRegistryParams := .ofCtor RmAccessRegistryParams.mk

structure RmAllocContextDma2Params where
  (hObjectParent hSubDevice hObjectNew hClass flags selector hMemory pad0 : U32)
  (offset limit : U64)
  status : U32

instance : Pod RmAllocContextDma2Params := .ofCtor RmAllocContextDma2Params.mk

structure RmGetEventDataParams where
  pEvent : U64
  (moreEvents status : U32)

instance : Pod RmGetEventDataParams := .ofCtor RmGetEventDataParams.mk

structure RmUnixEvent where
  (hObject notifyIndex info32 : U32)
  (info16 pad0 : U16)

instance : Pod RmUnixEvent := .ofCtor RmUnixEvent.mk

structure RmMapMemoryDmaParams where
  (hClient hDevice hDma hMemory : U32)
  (offset length : U64)
  (flags flags2 kindOverride pad0 : U32)
  dmaOffset : U64
  status : U32

instance : Pod RmMapMemoryDmaParams := .ofCtor RmMapMemoryDmaParams.mk

structure RmUnmapMemoryDmaParams where
  (hClient hDevice hDma hMemory flags pad0 : U32)
  (dmaOffset size : U64)
  status : U32

instance : Pod RmUnmapMemoryDmaParams := .ofCtor RmUnmapMemoryDmaParams.mk

structure RmBindContextDmaParams where
  (hClient hChannel hCtxDma status : U32)

instance : Pod RmBindContextDmaParams := .ofCtor RmBindContextDmaParams.mk

structure RmDupObjectParams where
  (hClient hParent hObject hClientSrc hObjectSrc flags status : U32)

instance : Pod RmDupObjectParams := .ofCtor RmDupObjectParams.mk

structure RmUpdateDeviceMappingInfoParams where
  (hClient hDevice hMemory pad0 : U32)
  (pOldCpuAddress pNewCpuAddress : U64)
  status : U32

instance : Pod RmUpdateDeviceMappingInfoParams := .ofCtor RmUpdateDeviceMappingInfoParams.mk

structure RsAccessMask where
  limbs : Vector U32 1

instance : Pod RsAccessMask := .ofCtor RsAccessMask.mk

structure RsSharePolicy where
  target : U32
  accessMask : RsAccessMask
  policyType : U16
  (action pad0 : U8)

instance : Pod RsSharePolicy := .ofCtor RsSharePolicy.mk

structure RmShareParams where
  (hClient hObject : U32)
  sharePolicy : RsSharePolicy
  status : U32

instance : Pod RmShareParams := .ofCtor RmShareParams.mk

structure RmAddVblankCallbackParams where
  (hClient hDevice hVblank pad0 : U32)
  pProc : U64
  (logicalHead pad1 : U32)
  (pParm1 pParm2 : U64)
  (bAdd status : U32)

instance : Pod RmAddVblankCallbackParams := .ofCtor RmAddVblankCallbackParams.mk

structure Nv0000CtrlSystemGetFeaturesParams where
  featuresMask : U32

instance : Pod Nv0000CtrlSystemGetFeaturesParams := .ofCtor Nv0000CtrlSystemGetFeaturesParams.mk

structure Nv0000CtrlClientSetInheritedSharePolicyParams where
  sharePolicy : RsSharePolicy

instance : Pod Nv0000CtrlClientSetInheritedSharePolicyParams :=
  .ofCtor Nv0000CtrlClientSetInheritedSharePolicyParams.mk

structure Nv0000CtrlGpuGetAttachedIdsParams where
  gpuIds : Vector U32 nv0000CtrlGpuMaxAttachedGpus

instance : Pod Nv0000CtrlGpuGetAttachedIdsParams := .ofCtor Nv0000CtrlGpuGetAttachedIdsParams.mk

structure Nv0000CtrlGpuGetIdInfoParams where
  (gpuId gpuFlags deviceInstance subDeviceInstance : U32)
  szName : U64
  (sliStatus boardId gpuInstance : U32)
  numaId : I32

instance : Pod Nv0000CtrlGpuGetIdInfoParams := .ofCtor Nv0000CtrlGpuGetIdInfoParams.mk

structure Nv0000CtrlGpuGetIdInfoV2Params where
  (gpuId gpuFlags deviceInstance subDeviceInstance sliStatus boardId gpuInstance : U32)
  numaId : I32

instance : Pod Nv0000CtrlGpuGetIdInfoV2Params := .ofCtor Nv0000CtrlGpuGetIdInfoV2Params.mk

structure Nv0000CtrlGpuGetProbedIdsParams where
  (gpuIds excludedGpuIds gpuFlags : Vector U32 nv0000CtrlGpuMaxProbedGpus)

instance : Pod Nv0000CtrlGpuGetProbedIdsParams := .ofCtor Nv0000CtrlGpuGetProbedIdsParams.mk

structure Nv0000CtrlGpuAttachIdsParams where
  gpuIds : Vector U32 nv0000CtrlGpuMaxProbedGpus
  failedId : U32

instance : Pod Nv0000CtrlGpuAttachIdsParams := .ofCtor Nv0000CtrlGpuAttachIdsParams.mk

structure Nv0000CtrlGpuActiveDevice where
  (gpuId gpuInstanceId computeInstanceId : U32)

instance : Pod Nv0000CtrlGpuActiveDevice := .ofCtor Nv0000CtrlGpuActiveDevice.mk

structure Nv0000CtrlGpuGetActiveDeviceIdsParams where
  numDevices : U32
  devices : Vector Nv0000CtrlGpuActiveDevice nv0000CtrlGpuMaxActiveDevices

instance : Pod Nv0000CtrlGpuGetActiveDeviceIdsParams :=
  .ofCtor Nv0000CtrlGpuGetActiveDeviceIdsParams.mk

structure Nv0000CtrlSystemGetFabricStatusParams where
  fabricStatus : U32

instance : Pod Nv0000CtrlSystemGetFabricStatusParams :=
  .ofCtor Nv0000CtrlSystemGetFabricStatusParams.mk

structure Nv0000CtrlGpuGetMemopEnableParams where
  enableMask : U32

instance : Pod Nv0000CtrlGpuGetMemopEnableParams := .ofCtor Nv0000CtrlGpuGetMemopEnableParams.mk

abbrev GpuMatrix : Type :=
  Vector (Vector U32 nv0000CtrlSystemMaxP2pGroupGpus) nv0000CtrlSystemMaxP2pGroupGpus

structure Nv0000CtrlSystemGetP2PCapsMatrixParams where
  (grpACount grpBCount : U32)
  (gpuIdGrpA gpuIdGrpB : Vector U32 nv0000CtrlSystemMaxP2pGroupGpus)
  p2pCaps : GpuMatrix
  (a2bOptimalReadCes a2bOptimalWriteCes b2aOptimalReadCes b2aOptimalWriteCes : GpuMatrix)

instance : Pod Nv0000CtrlSystemGetP2PCapsMatrixParams :=
  .ofCtor Nv0000CtrlSystemGetP2PCapsMatrixParams.mk

structure Nv0080CtrlHostGetCapsV2Params where
  capsTbl : Vector UInt8 3

instance : Pod Nv0080CtrlHostGetCapsV2Params := .ofCtor Nv0080CtrlHostGetCapsV2Params.mk

structure Nv0080CtrlGpuGetNumSubdevicesParams where
  numSubDevices : U32

instance : Pod Nv0080CtrlGpuGetNumSubdevicesParams :=
  .ofCtor Nv0080CtrlGpuGetNumSubdevicesParams.mk

structure Nv0080CtrlGpuGetClasslistV2Params where
  numClasses : U32
  classList : Vector U32 nv0080CtrlGpuClasslistMaxSize

instance : Pod Nv0080CtrlGpuGetClasslistV2Params := .ofCtor Nv0080CtrlGpuGetClasslistV2Params.mk

structure Nv0080CtrlGpuGetVirtualizationModeParams where
  virtualizationMode : U32
  isGridBuild : U8
  pad0 : Vector UInt8 3

instance : Pod Nv0080CtrlGpuGetVirtualizationModeParams :=
  .ofCtor Nv0080CtrlGpuGetVirtualizationModeParams.mk

structure Nv0080CtrlFifoGetChannellistParams where
  numChannels : U32
  (pChannelHandleList pChannelList : U64)

instance : Pod Nv0080CtrlFifoGetChannellistParams := .ofCtor Nv0080CtrlFifoGetChannellistParams.mk

structure Nv0080CtrlPerfCudaLimitControlParams where
  bCudaLimit : U8

instance : Pod Nv0080CtrlPerfCudaLimitControlParams :=
  .ofCtor Nv0080CtrlPerfCudaLimitControlParams.mk

structure Nv0080CtrlFbGetCapsV2Params where
  capsTbl : Vector UInt8 nv0080CtrlFbCapsTblSize

instance : Pod Nv0080CtrlFbGetCapsV2Params := .ofCtor Nv0080CtrlFbGetCapsV2Params.mk

structure Nv2080CtrlGrRouteInfo where
  (flags pad0 : U32)
  route : U64

instance : Pod Nv2080CtrlGrRouteInfo := .ofCtor Nv2080CtrlGrRouteInfo.mk

structure Nv0080CtrlGrGetCapsV2Params where
  capsTbl : Vector UInt8 nv0080CtrlGrCapsTblSize
  pad0 : U8
  grRouteInfo : Nv2080CtrlGrRouteInfo
  bCapsPopulated : U8
  pad1 : Vector UInt8 7

instance : Pod Nv0080CtrlGrGetCapsV2Params := .ofCtor Nv0080CtrlGrGetCapsV2Params.mk

structure Nv906fCtrlGetClassEngineIdParams where
  (hObject classEngineId classId engineId : U32)

instance : Pod Nv906fCtrlGetClassEngineIdParams := .ofCtor Nv906fCtrlGetClassEngineIdParams.mk

structure Nvc36fCtrlCmdGpfifoGetWorkSubmitTokenParams where
  workSubmitToken : U32

instance : Pod Nvc36fCtrlCmdGpfifoGetWorkSubmitTokenParams :=
  .ofCtor Nvc36fCtrlCmdGpfifoGetWorkSubmitTokenParams.mk

structure Nv2080CtrlMcGetArchInfoParams where
  (architecture implementation revision : U32)
  subRevision : U8
  pad0 : Vector UInt8 3

instance : Pod Nv2080CtrlMcGetArchInfoParams := .ofCtor Nv2080CtrlMcGetArchInfoParams.mk

structure NvxxxxCtrlXxxInfo where
  (index data : U32)

instance : Pod NvxxxxCtrlXxxInfo := .ofCtor NvxxxxCtrlXxxInfo.mk

structure Nv2080CtrlGpuGetInfoV2Params where
  gpuInfoListSize : U32
  gpuInfoList : Vector NvxxxxCtrlXxxInfo nv2080CtrlGpuInfoMaxListSize

instance : Pod Nv2080CtrlGpuGetInfoV2Params := .ofCtor Nv2080CtrlGpuGetInfoV2Params.mk

structure Nv2080CtrlGpuGetNameStringParams where
  gpuNameStringFlags : U32
  gpuNameString : Vector UInt8 (nv2080GpuMaxNameStringLength * 2)

instance : Pod Nv2080CtrlGpuGetNameStringParams := .ofCtor Nv2080CtrlGpuGetNameStringParams.mk

structure Nv2080CtrlGpuGetShortNameStringParams where
  gpuShortNameString : Vector UInt8 nv2080GpuMaxNameStringLength

instance : Pod Nv2080CtrlGpuGetShortNameStringParams :=
  .ofCtor Nv2080CtrlGpuGetShortNameStringParams.mk

structure Nv2080CtrlGpuGetSimulationInfoParams where
  simType : U32

instance : Pod Nv2080CtrlGpuGetSimulationInfoParams :=
  .ofCtor Nv2080CtrlGpuGetSimulationInfoParams.mk

structure Nv2080CtrlGpuGetEnginesV2Params where
  engineCount : U32
  engineList : Vector U32 nv2080GpuMaxEnginesListSize

instance : Pod Nv2080CtrlGpuGetEnginesV2Params := .ofCtor Nv2080CtrlGpuGetEnginesV2Params.mk

structure Nv2080CtrlGpuQueryComputeModeRulesParams where
  rules : U32

instance : Pod Nv2080CtrlGpuQueryComputeModeRulesParams :=
  .ofCtor Nv2080CtrlGpuQueryComputeModeRulesParams.mk

structure Nv2080CtrlGpuQueryEccExceptionStatus where
  count : U64

instance : Pod Nv2080CtrlGpuQueryEccExceptionStatus :=
  .ofCtor Nv2080CtrlGpuQueryEccExceptionStatus.mk

structure Nv2080CtrlGpuQueryEccUnitStatus where
  (enabled scrubComplete supported : U8)
  pad0 : Vector UInt8 5
  (dbe dbeNonResettable sbe sbeNonResettable : Nv2080CtrlGpuQueryEccExceptionStatus)

instance : Pod Nv2080CtrlGpuQueryEccUnitStatus := .ofCtor Nv2080CtrlGpuQueryEccUnitStatus.mk

structure Nv2080CtrlGpuQueryEccStatusParams where
  units : Vector Nv2080CtrlGpuQueryEccUnitStatus nv2080CtrlGpuEccUnitCount
  (bFatalPoisonError uncorrectableError : U8)
  pad0 : Vector UInt8 2
  flags : U32
  grRouteInfo : Nv2080CtrlGrRouteInfo

instance : Pod Nv2080CtrlGpuQueryEccStatusParams := .ofCtor Nv2080CtrlGpuQueryEccStatusParams.mk

structure Nv2080CtrlGpuGetGidInfoParams where
  (index flags length : U32)
  data : Vector UInt8 nv2080GpuMaxGidLength

instance : Pod Nv2080CtrlGpuGetGidInfoParams := .ofCtor Nv2080CtrlGpuGetGidInfoParams.mk

structure Nv2080CtrlFbGetInfoV2Params where
  fbInfoListSize : U32
  fbInfoList : Vector NvxxxxCtrlXxxInfo nv2080CtrlFbInfoMaxListSize

instance : Pod Nv2080CtrlFbGetInfoV2Params := .ofCtor Nv2080CtrlFbGetInfoV2Params.mk

structure Nv2080CtrlBusGetInfoV2Params where
  busInfoListSize : U32
  busInfoList : Vector NvxxxxCtrlXxxInfo nv2080CtrlBusInfoMaxListSize

instance : Pod Nv2080CtrlBusGetInfoV2Params := .ofCtor Nv2080CtrlBusGetInfoV2Params.mk

structure Nv2080CtrlBusGetC2cInfoParams where
  (bIsLinkUp bLinkInHs : U8)
  pad0 : Vector UInt8 2
  (nrLinks maxNrLinks linkMask perLinkBwMbps perLinkLaneWidth remoteType : U32)

instance : Pod Nv2080CtrlBusGetC2cInfoParams := .ofCtor Nv2080CtrlBusGetC2cInfoParams.mk

structure Nv2080CtrlBusGetPciInfoParams where
  (pciDeviceId pciSubSystemId pciRevisionId pciExtDeviceId : U32)

instance : Pod Nv2080CtrlBusGetPciInfoParams := .ofCtor Nv2080CtrlBusGetPciInfoParams.mk

structure Nv2080CtrlBusPciBarInfo where
  (flags barSize : U32)
  (barSizeBytes barOffset : U64)

instance : Pod Nv2080CtrlBusPciBarInfo := .ofCtor Nv2080CtrlBusPciBarInfo.mk

structure Nv2080CtrlBusGetPciBarInfoParams where
  (pciBarCount pad0 : U32)
  pciBarInfo : Vector Nv2080CtrlBusPciBarInfo nv2080CtrlBusMaxPciBars

instance : Pod Nv2080CtrlBusGetPciBarInfoParams := .ofCtor Nv2080CtrlBusGetPciBarInfoParams.mk

structure Nv2080CtrlBusPcieGpuAtomicOpInfo where
  bSupported : U8
  pad0 : Vector UInt8 3
  attributes : U32

instance : Pod Nv2080CtrlBusPcieGpuAtomicOpInfo := .ofCtor Nv2080CtrlBusPcieGpuAtomicOpInfo.mk

structure Nv2080CtrlCmdBusGetPcieSupportedGpuAtomicsParams where
  (capType dbdf : U32)
  atomicOp : Vector Nv2080CtrlBusPcieGpuAtomicOpInfo nv2080CtrlPcieSupportedGpuAtomicsOpTypeCount

instance : Pod Nv2080CtrlCmdBusGetPcieSupportedGpuAtomicsParams :=
  .ofCtor Nv2080CtrlCmdBusGetPcieSupportedGpuAtomicsParams.mk

structure Nv2080CtrlGrGetInfoParams where
  (grInfoListSize pad0 : U32)
  grInfoList : U64
  grRouteInfo : Nv2080CtrlGrRouteInfo

instance : Pod Nv2080CtrlGrGetInfoParams := .ofCtor Nv2080CtrlGrGetInfoParams.mk

structure Nv2080CtrlGrGlobalSmId where
  (gpcId localTpcId localSmId globalTpcId : U16)
  (virtualGpcId migratableTpcId ugpuId physicalCpcId virtualTpcId : U16)

instance : Pod Nv2080CtrlGrGlobalSmId := .ofCtor Nv2080CtrlGrGlobalSmId.mk

structure Nv2080CtrlGrGetGlobalSmOrderParams where
  globalSmId : Vector Nv2080CtrlGrGlobalSmId nv2080CtrlGrGetGlobalSmOrderMaxSmCount
  (numSm numTpc : U16)
  pad0 : U32
  grRouteInfo : Nv2080CtrlGrRouteInfo

instance : Pod Nv2080CtrlGrGetGlobalSmOrderParams := .ofCtor Nv2080CtrlGrGetGlobalSmOrderParams.mk

structure Nv2080CtrlGrGetGpcMaskParams where
  grRouteInfo : Nv2080CtrlGrRouteInfo
  (gpcMask pad0 : U32)

instance : Pod Nv2080CtrlGrGetGpcMaskParams := .ofCtor Nv2080CtrlGrGetGpcMaskParams.mk

structure Nv2080CtrlGrGetTpcMaskParams where
  grRouteInfo : Nv2080CtrlGrRouteInfo
  (gpcId tpcMask : U32)

instance : Pod Nv2080CtrlGrGetTpcMaskParams := .ofCtor Nv2080CtrlGrGetTpcMaskParams.mk

structure Nv2080CtrlGrSetCtxswPreemptionModeParams where
  (flags hChannel gfxpPreemptMode cilpPreemptMode : U32)
  grRouteInfo : Nv2080CtrlGrRouteInfo

instance : Pod Nv2080CtrlGrSetCtxswPreemptionModeParams :=
  .ofCtor Nv2080CtrlGrSetCtxswPreemptionModeParams.mk

structure Nv2080CtrlGrGetCtxBufferSizeParams where
  (hChannel pad0 : U32)
  totalBufferSize : U64

instance : Pod Nv2080CtrlGrGetCtxBufferSizeParams := .ofCtor Nv2080CtrlGrGetCtxBufferSizeParams.mk

structure Nv2080CtrlCeGetAllCapsParams where
  capsTbl : Vector (Vector UInt8 nv2080CtrlCeCapsTblSize) nv2080CtrlMaxCes
  present : U64

instance : Pod Nv2080CtrlCeGetAllCapsParams := .ofCtor Nv2080CtrlCeGetAllCapsParams.mk

structure Nv2080CtrlGspGetFeaturesParams where
  gspFeatures : U32
  (bValid bDefaultGspRmGpu : U8)
  pad0 : Vector UInt8 2
  firmwareVersion : Vector UInt8 nv2080GspMaxBuildVersionLength

instance : Pod Nv2080CtrlGspGetFeaturesParams := .ofCtor Nv2080CtrlGspGetFeaturesParams.mk

structure Nv2080CtrlGrmgrGrFsInfoQueryParams where
  queryType : U16
  reserved : Vector UInt8 2
  status : U32
  queryDataWords : Vector U32 3

instance : Pod Nv2080CtrlGrmgrGrFsInfoQueryParams := .ofCtor Nv2080CtrlGrmgrGrFsInfoQueryParams.mk

structure Nv2080CtrlGrmgrGetGrFsInfoParams where
  numQueries : U16
  reserved : Vector UInt8 6
  queries : Vector Nv2080CtrlGrmgrGrFsInfoQueryParams nv2080CtrlGrmgrGrFsInfoMaxQueries

instance : Pod Nv2080CtrlGrmgrGetGrFsInfoParams := .ofCtor Nv2080CtrlGrmgrGetGrFsInfoParams.mk

structure Nv2080CtrlNvlinkLinkMask where
  lenMasks : U8
  pad0 : Vector UInt8 7
  masks : Vector U64 1

instance : Pod Nv2080CtrlNvlinkLinkMask := .ofCtor Nv2080CtrlNvlinkLinkMask.mk

structure Nv2080CtrlNvlinkGetNvlinkStatusParamsPrefix where
  (enabledLinkMask pad0 : U32)
  enabledLinks : Nv2080CtrlNvlinkLinkMask
  (bSublinkStateInst bNvleModeEnabled : U8)

instance : Pod Nv2080CtrlNvlinkGetNvlinkStatusParamsPrefix :=
  .ofCtor Nv2080CtrlNvlinkGetNvlinkStatusParamsPrefix.mk

structure NvConfComputeCtrlCmdSystemGetCapabilitiesParams where
  (cpuCapability gpusCapability environment ccFeature devToolsMode multiGpuMode : U8)

instance : Pod NvConfComputeCtrlCmdSystemGetCapabilitiesParams :=
  .ofCtor NvConfComputeCtrlCmdSystemGetCapabilitiesParams.mk

structure Nv0000SyncGpuBoostGroupConfig where
  gpuCount : U32
  gpuIds : Vector U32 nvMaxDevices
  boostGroupId : U32
  bBridgeless : U8
  pad0 : Vector UInt8 3

instance : Pod Nv0000SyncGpuBoostGroupConfig := .ofCtor Nv0000SyncGpuBoostGroupConfig.mk

structure Nv0000SyncGpuBoostGroupInfoParams where
  groupCount : U32
  boostGroups : Vector Nv0000SyncGpuBoostGroupConfig nv0000SyncGpuBoostMaxGroups

instance : Pod Nv0000SyncGpuBoostGroupInfoParams := .ofCtor Nv0000SyncGpuBoostGroupInfoParams.mk

structure Nva06cCtrlGpfifoScheduleParams where
  (bEnable bSkipSubmit bSkipEnable : U8)

instance : Pod Nva06cCtrlGpfifoScheduleParams := .ofCtor Nva06cCtrlGpfifoScheduleParams.mk

structure Nva06cCtrlTimesliceParams where
  timesliceUs : U64

instance : Pod Nva06cCtrlTimesliceParams := .ofCtor Nva06cCtrlTimesliceParams.mk

structure Nva06cCtrlPreemptParams where
  (bWait bManualTimeout : U8)
  pad0 : Vector UInt8 2
  timeoutUs : U32

instance : Pod Nva06cCtrlPreemptParams := .ofCtor Nva06cCtrlPreemptParams.mk

structure Nv83deCtrlDebugSetExceptionMaskParams where
  exceptionMask : U32

instance : Pod Nv83deCtrlDebugSetExceptionMaskParams :=
  .ofCtor Nv83deCtrlDebugSetExceptionMaskParams.mk

structure Nv2080CtrlPerfBoostParams where
  (flags duration : U32)

instance : Pod Nv2080CtrlPerfBoostParams := .ofCtor Nv2080CtrlPerfBoostParams.mk

end CudaTrace.Decode
