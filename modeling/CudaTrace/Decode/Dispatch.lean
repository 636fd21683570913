import CudaTrace.Decode.Summary

/-!
# The commands of the devices

Each command with its number, its name and its decoder. The table of names and the dispatch
of the decoder both agree with this list; what the summary shows depends on the type byte
only in the dispatch.
-/

namespace CudaTrace.Decode
open CudaTrace.Base
open CudaTrace.Ptrace (U32 U64 I32 I64)

structure Command (D : Type) where
  number : ℕ
  name : String
  decoder : D

def Command.find {D : Type} (commands : List (Command D)) (number : ℕ) : Option (Command D) :=
  commands.find? fun c => number = c.number

theorem Command.find_none {D : Type} {commands : List (Command D)} {number : ℕ}
    (h : ∀ c ∈ commands, number ≠ c.number) : Command.find commands number = none := by
  rw [find, List.find?_eq_none]
  simpa using h

theorem Command.find_mem {D : Type} {commands : List (Command D)} {number : ℕ} {c : Command D}
    (h : Command.find commands number = some c) : c ∈ commands ∧ number = c.number := by
  have hkey := List.find?_some h
  exact ⟨List.mem_of_find?_eq_some h, of_decide_eq_true hkey⟩

namespace Rm

/-- The decoder of an escape in full mode. -/
abbrev EscapeDecoder := IoctlMeta → U64 → ℕ → Decoding (List Field)

def escapeCommands : List (Command EscapeDecoder) :=
  [⟨nvEscIoctlXferCmd, "NV_ESC_IOCTL_XFER_CMD", fun _ argPtr maxBlob =>
     reportFields (decodeXfer argPtr .full maxBlob)⟩,
   ⟨nvEscRmControl, "NV_ESC_RM_CONTROL", fun m argPtr maxBlob =>
     reportFields (decodeRmControl m argPtr maxBlob)⟩,
   ⟨nvEscRmAllocMemory, "NV_ESC_RM_ALLOC_MEMORY", fun m argPtr _ =>
     reportFields (decodeRmAllocMemory m argPtr)⟩,
   ⟨nvEscRmAllocObject, "NV_ESC_RM_ALLOC_OBJECT", fun m argPtr _ =>
     reportFields (decodeRmAllocObject m argPtr)⟩,
   ⟨nvEscRmAlloc, "NV_ESC_RM_ALLOC", fun m argPtr maxBlob =>
     reportFields (decodeRmAlloc m argPtr maxBlob)⟩,
   ⟨nvEscRmFree, "NV_ESC_RM_FREE", fun m argPtr _ =>
     reportFields (decodeRmFree m argPtr)⟩,
   ⟨nvEscRmMapMemory, "NV_ESC_RM_MAP_MEMORY", fun m argPtr _ =>
     reportFields (decodeRmMapMemory m argPtr)⟩,
   ⟨nvEscRmUnmapMemory, "NV_ESC_RM_UNMAP_MEMORY", fun m argPtr _ =>
     reportFields (decodeRmUnmapMemory m argPtr)⟩,
   ⟨nvEscRmI2cAccess, "NV_ESC_RM_I2C_ACCESS", fun m argPtr _ =>
     reportFields (decodeRmI2cAccess m argPtr)⟩,
   ⟨nvEscRmIdleChannels, "NV_ESC_RM_IDLE_CHANNELS", fun m argPtr _ =>
     reportFields (decodeRmIdleChannels m argPtr)⟩,
   ⟨nvEscRmVidHeapControl, "NV_ESC_RM_VID_HEAP_CONTROL", fun m argPtr _ =>
     decodeRmVidHeapControl m argPtr⟩,
   ⟨nvEscRmAccessRegistry, "NV_ESC_RM_ACCESS_REGISTRY", fun m argPtr maxBlob =>
     reportFields (decodeRmAccessRegistry m argPtr maxBlob)⟩,
   ⟨nvEscRmGetEventData, "NV_ESC_RM_GET_EVENT_DATA", fun m argPtr _ =>
     reportFields (decodeRmGetEventData m argPtr)⟩,
   ⟨nvEscRmAllocContextDma2, "NV_ESC_RM_ALLOC_CONTEXT_DMA2", fun m argPtr _ =>
     reportFields (decodeRmAllocContextDma2 m argPtr)⟩,
   ⟨nvEscRmMapMemoryDma, "NV_ESC_RM_MAP_MEMORY_DMA", fun m argPtr _ =>
     reportFields (decodeRmMapMemoryDma m argPtr)⟩,
   ⟨nvEscRmUnmapMemoryDma, "NV_ESC_RM_UNMAP_MEMORY_DMA", fun m argPtr _ =>
     reportFields (decodeRmUnmapMemoryDma m argPtr)⟩,
   ⟨nvEscRmBindContextDma, "NV_ESC_RM_BIND_CONTEXT_DMA", fun m argPtr _ =>
     reportFields (decodeRmBindContextDma m argPtr)⟩,
   ⟨nvEscRmDupObject, "NV_ESC_RM_DUP_OBJECT", fun m argPtr _ =>
     reportFields (decodeRmDupObject m argPtr)⟩,
   ⟨nvEscRmUpdateDeviceMappingInfo, "NV_ESC_RM_UPDATE_DEVICE_MAPPING_INFO", fun m argPtr _ =>
     reportFields (decodeRmUpdateDeviceMappingInfo m argPtr)⟩,
   ⟨nvEscRmShare, "NV_ESC_RM_SHARE", fun m argPtr _ =>
     reportFields (decodeRmShare m argPtr)⟩,
   ⟨nvEscRmAddVblankCallback, "NV_ESC_RM_ADD_VBLANK_CALLBACK", fun m argPtr _ =>
     reportFields (decodeRmAddVblankCallback m argPtr)⟩,
   ⟨nvEscRmConfigGet, "NV_ESC_RM_CONFIG_GET", fun m argPtr _ =>
     reportFields (decodeRmOpaque m argPtr)⟩,
   ⟨nvEscRmConfigSet, "NV_ESC_RM_CONFIG_SET", fun m argPtr _ =>
     reportFields (decodeRmOpaque m argPtr)⟩,
   ⟨nvEscRmConfigGetEx, "NV_ESC_RM_CONFIG_GET_EX", fun m argPtr _ =>
     reportFields (decodeRmOpaque m argPtr)⟩,
   ⟨nvEscRmConfigSetEx, "NV_ESC_RM_CONFIG_SET_EX", fun m argPtr _ =>
     reportFields (decodeRmOpaque m argPtr)⟩,
   ⟨nvEscRmExportObjectToFd, "NV_ESC_RM_EXPORT_OBJECT_TO_FD", fun m argPtr _ =>
     reportFields (decodeRmOpaque m argPtr)⟩,
   ⟨nvEscRmImportObjectFromFd, "NV_ESC_RM_IMPORT_OBJECT_FROM_FD", fun m argPtr _ =>
     reportFields (decodeRmOpaque m argPtr)⟩,
   ⟨nvEscRmLocklessDiagnostic, "NV_ESC_RM_LOCKLESS_DIAGNOSTIC", fun m argPtr _ =>
     reportFields (decodeRmOpaque m argPtr)⟩,
   ⟨nvEscRegisterFd, "NV_ESC_REGISTER_FD", fun m argPtr _ =>
     reportFields (decodeRegisterFd m argPtr)⟩,
   ⟨nvEscAllocOsEvent, "NV_ESC_ALLOC_OS_EVENT", fun m argPtr _ =>
     reportFields (decodeAllocFreeOsEvent m argPtr)⟩,
   ⟨nvEscFreeOsEvent, "NV_ESC_FREE_OS_EVENT", fun m argPtr _ =>
     reportFields (decodeAllocFreeOsEvent m argPtr)⟩,
   ⟨nvEscStatusCode, "NV_ESC_STATUS_CODE", fun m argPtr _ =>
     reportFields (decodeStatusCode m argPtr)⟩,
   ⟨nvEscCheckVersionStr, "NV_ESC_CHECK_VERSION_STR", fun m argPtr _ =>
     reportFields (decodeRmApiVersion m argPtr)⟩,
   ⟨nvEscQueryDeviceIntr, "NV_ESC_QUERY_DEVICE_INTR", fun m argPtr _ =>
     reportFields (decodeQueryDeviceIntr m argPtr)⟩,
   ⟨nvEscSysParams, "NV_ESC_SYS_PARAMS", fun m argPtr _ =>
     reportFields (decodeSysParams m argPtr)⟩,
   ⟨nvEscWaitOpenComplete, "NV_ESC_WAIT_OPEN_COMPLETE", fun m argPtr _ =>
     reportFields (decodeWaitOpenComplete m argPtr)⟩,
   ⟨nvEscNumaInfo, "NV_ESC_NUMA_INFO", fun m argPtr _ =>
     reportFields (decodeNumaInfo m argPtr)⟩,
   ⟨nvEscSetNumaStatus, "NV_ESC_SET_NUMA_STATUS", fun m argPtr _ =>
     reportFields (decodeSetNumaStatus m argPtr)⟩,
   ⟨nvEscAttachGpusToFd, "NV_ESC_ATTACH_GPUS_TO_FD", fun m argPtr maxBlob =>
     reportFields (decodeAttachGpus m argPtr maxBlob)⟩,
   ⟨nvEscExportToDmabufFd, "NV_ESC_EXPORT_TO_DMABUF_FD", fun m argPtr _ =>
     reportFields (decodeExportToDmabuf m argPtr)⟩,
   ⟨nvEscCardInfo, "NV_ESC_CARD_INFO", fun m argPtr maxBlob =>
     reportFields (decodeCardInfo m argPtr maxBlob)⟩]

theorem decodeEscape_eq (m : IoctlMeta) (argPtr : U64) (maxBlob : ℕ) :
    decodeEscape m argPtr .full maxBlob =
      match Command.find escapeCommands m.nr.toNat with
      | some c => c.decoder m argPtr maxBlob
      | none => reportFields (decodeUnknown m argPtr maxBlob) := by
  unfold decodeEscape
  split
  case h_42 =>
    have hnone : Command.find escapeCommands m.nr.toNat = none := by
      apply Command.find_none
      simp only [escapeCommands, List.forall_mem_cons]
      and_intros
      all_goals first | assumption | simp
    rw [hnone]
  all_goals
    rename_i h
    rw [h]
    rfl

theorem outerCmdName_eq (nr : U8) :
    outerCmdName nr = ((Command.find escapeCommands nr.toNat).map Command.name).getD "UNKNOWN" := by
  unfold outerCmdName
  split
  case h_42 =>
    have hnone : Command.find escapeCommands nr.toNat = none := by
      apply Command.find_none
      simp only [escapeCommands, List.forall_mem_cons]
      and_intros
      all_goals first | assumption | simp
    rw [hnone]
    rfl
  all_goals
    rename_i h
    rw [h]
    rfl

end Rm

namespace Uvm

def uvmCommands : List (Command (U64 → Decoding Report)) :=
  [⟨ uvmDeinitialize, "UVM_DEINITIALIZE", fun _ => return .failed "ok"⟩,
   ⟨uvmInitialize, "UVM_INITIALIZE", decodeInitialize⟩,
   ⟨uvmReserveVa, "UVM_RESERVE_VA", decodeReserveVa⟩,
   ⟨uvmReleaseVa, "UVM_RELEASE_VA", decodeReleaseVa⟩,
   ⟨uvmRegionCommit, "UVM_REGION_COMMIT", decodeRegionCommit⟩,
   ⟨uvmRegionDecommit, "UVM_REGION_DECOMMIT", decodeRegionDecommit⟩,
   ⟨uvmRegionSetStream, "UVM_REGION_SET_STREAM", decodeRegionSetStream⟩,
   ⟨uvmSetStreamRunning, "UVM_SET_STREAM_RUNNING", decodeSetStreamRunning⟩,
   ⟨uvmSetStreamStopped, "UVM_SET_STREAM_STOPPED", decodeSetStreamStopped⟩,
   ⟨uvmAddSession, "UVM_ADD_SESSION", decodeAddSession⟩,
   ⟨uvmEnableCounters, "UVM_ENABLE_COUNTERS", decodeEnableCounters⟩,
   ⟨uvmMapCounter, "UVM_MAP_COUNTER", decodeMapCounter⟩,
   ⟨uvmCreateEventQueue, "UVM_CREATE_EVENT_QUEUE", decodeCreateEventQueue⟩,
   ⟨uvmRemoveEventQueue, "UVM_REMOVE_EVENT_QUEUE", decodeRemoveEventQueue⟩,
   ⟨uvmMapEventQueue, "UVM_MAP_EVENT_QUEUE", decodeMapEventQueue⟩,
   ⟨uvmEventCtrl, "UVM_EVENT_CTRL", decodeEventCtrl⟩,
   ⟨uvmGetGpuUuidTable, "UVM_GET_GPU_UUID_TABLE", decodeGetGpuUuidTable⟩,
   ⟨uvmRegionSetBacking, "UVM_REGION_SET_BACKING", decodeRegionSetBacking⟩,
   ⟨uvmRegionUnsetBacking, "UVM_REGION_UNSET_BACKING", decodeRegionUnsetBacking⟩,
   ⟨uvmCreateRangeGroup, "UVM_CREATE_RANGE_GROUP", decodeCreateRangeGroup⟩,
   ⟨uvmDestroyRangeGroup, "UVM_DESTROY_RANGE_GROUP", decodeDestroyRangeGroup⟩,
   ⟨uvmRegisterGpuVaspace, "UVM_REGISTER_GPU_VASPACE", decodeRegisterGpuVaspace⟩,
   ⟨uvmUnregisterGpuVaspace, "UVM_UNREGISTER_GPU_VASPACE", decodeUnregisterGpuVaspace⟩,
   ⟨uvmRegisterChannel, "UVM_REGISTER_CHANNEL", decodeRegisterChannel⟩,
   ⟨uvmUnregisterChannel, "UVM_UNREGISTER_CHANNEL", decodeUnregisterChannel⟩,
   ⟨uvmEnablePeerAccess, "UVM_ENABLE_PEER_ACCESS", decodeEnablePeerAccess⟩,
   ⟨uvmDisablePeerAccess, "UVM_DISABLE_PEER_ACCESS", decodeDisablePeerAccess⟩,
   ⟨uvmSetRangeGroup, "UVM_SET_RANGE_GROUP", decodeSetRangeGroup⟩,
   ⟨uvmMapExternalAllocation, "UVM_MAP_EXTERNAL_ALLOCATION", decodeMapExternalAllocation⟩,
   ⟨uvmFree, "UVM_FREE", decodeFree⟩,
   ⟨uvmMemMap, "UVM_MEM_MAP", decodeMemMap⟩,
   ⟨uvmRegisterGpu, "UVM_REGISTER_GPU", decodeRegisterGpu⟩,
   ⟨uvmUnregisterGpu, "UVM_UNREGISTER_GPU", decodeUnregisterGpu⟩,
   ⟨uvmPageableMemAccess, "UVM_PAGEABLE_MEM_ACCESS", decodePageableMemAccess⟩,
   ⟨uvmPreventMigrationRangeGroups, "UVM_PREVENT_MIGRATION_RANGE_GROUPS",
    decodePreventMigrationRangeGroups⟩,
   ⟨uvmAllowMigrationRangeGroups, "UVM_ALLOW_MIGRATION_RANGE_GROUPS",
    decodeAllowMigrationRangeGroups⟩,
   ⟨uvmSetPreferredLocation, "UVM_SET_PREFERRED_LOCATION", decodeSetPreferredLocation⟩,
   ⟨uvmUnsetPreferredLocation, "UVM_UNSET_PREFERRED_LOCATION", decodeUnsetPreferredLocation⟩,
   ⟨uvmEnableReadDuplication, "UVM_ENABLE_READ_DUPLICATION", decodeEnableReadDuplication⟩,
   ⟨uvmDisableReadDuplication, "UVM_DISABLE_READ_DUPLICATION", decodeDisableReadDuplication⟩,
   ⟨uvmSetAccessedBy, "UVM_SET_ACCESSED_BY", decodeSetAccessedBy⟩,
   ⟨uvmUnsetAccessedBy, "UVM_UNSET_ACCESSED_BY", decodeUnsetAccessedBy⟩,
   ⟨uvmMigrate, "UVM_MIGRATE", decodeMigrate⟩,
   ⟨uvmMigrateRangeGroup, "UVM_MIGRATE_RANGE_GROUP", decodeMigrateRangeGroup⟩,
   ⟨uvmEnableSystemWideAtomics, "UVM_ENABLE_SYSTEM_WIDE_ATOMICS", decodeEnableSystemWideAtomics⟩,
   ⟨uvmDisableSystemWideAtomics, "UVM_DISABLE_SYSTEM_WIDE_ATOMICS",
    decodeDisableSystemWideAtomics⟩,
   ⟨uvmToolsInitEventTracker, "UVM_TOOLS_INIT_EVENT_TRACKER", decodeToolsInitEventTracker⟩,
   ⟨uvmToolsInitEventTrackerV2, "UVM_TOOLS_INIT_EVENT_TRACKER_V2", decodeToolsInitEventTracker⟩,
   ⟨uvmToolsSetNotificationThreshold, "UVM_TOOLS_SET_NOTIFICATION_THRESHOLD",
    decodeToolsSetNotificationThreshold⟩,
   ⟨uvmToolsEventQueueEnableEvents, "UVM_TOOLS_EVENT_QUEUE_ENABLE_EVENTS",
    decodeToolsEventQueueEnableEvents⟩,
   ⟨uvmToolsEventQueueDisableEvents, "UVM_TOOLS_EVENT_QUEUE_DISABLE_EVENTS",
    decodeToolsEventQueueDisableEvents⟩,
   ⟨uvmToolsEnableCounters, "UVM_TOOLS_ENABLE_COUNTERS", decodeToolsEnableCounters⟩,
   ⟨uvmToolsDisableCounters, "UVM_TOOLS_DISABLE_COUNTERS", decodeToolsDisableCounters⟩,
   ⟨uvmToolsReadProcessMemory, "UVM_TOOLS_READ_PROCESS_MEMORY", decodeToolsReadProcessMemory⟩,
   ⟨uvmToolsWriteProcessMemory, "UVM_TOOLS_WRITE_PROCESS_MEMORY", decodeToolsWriteProcessMemory⟩,
   ⟨uvmToolsGetProcessorUuidTable, "UVM_TOOLS_GET_PROCESSOR_UUID_TABLE",
    decodeToolsGetProcessorUuidTable⟩,
   ⟨uvmToolsGetProcessorUuidTableV2, "UVM_TOOLS_GET_PROCESSOR_UUID_TABLE_V2",
    decodeToolsGetProcessorUuidTable⟩,
   ⟨uvmMapDynamicParallelismRegion, "UVM_MAP_DYNAMIC_PARALLELISM_REGION",
    decodeMapDynamicParallelismRegion⟩,
   ⟨uvmUnmapExternal, "UVM_UNMAP_EXTERNAL", decodeUnmapExternal⟩,
   ⟨uvmToolsFlushEvents, "UVM_TOOLS_FLUSH_EVENTS", decodeToolsFlushEvents⟩,
   ⟨uvmAllocSemaphorePool, "UVM_ALLOC_SEMAPHORE_POOL", decodeAllocSemaphorePool⟩,
   ⟨uvmCleanUpZombieResources, "UVM_CLEAN_UP_ZOMBIE_RESOURCES", decodeCleanUpZombieResources⟩,
   ⟨uvmPageableMemAccessOnGpu, "UVM_PAGEABLE_MEM_ACCESS_ON_GPU", decodePageableMemAccessOnGpu⟩,
   ⟨uvmPopulatePageable, "UVM_POPULATE_PAGEABLE", decodePopulatePageable⟩,
   ⟨uvmValidateVaRange, "UVM_VALIDATE_VA_RANGE", decodeValidateVaRange⟩,
   ⟨uvmCreateExternalRange, "UVM_CREATE_EXTERNAL_RANGE", decodeCreateExternalRange⟩,
   ⟨uvmMapExternalSparse, "UVM_MAP_EXTERNAL_SPARSE", decodeMapExternalSparse⟩,
   ⟨uvmMmInitialize, "UVM_MM_INITIALIZE", decodeMmInitialize⟩,
   ⟨uvmAllocDeviceP2p, "UVM_ALLOC_DEVICE_P2P", decodeAllocDeviceP2p⟩,
   ⟨uvmClearAllAccessCounters, "UVM_CLEAR_ALL_ACCESS_COUNTERS", decodeClearAllAccessCounters⟩,
   ⟨uvmDiscard, "UVM_DISCARD", decodeDiscard⟩,
   ⟨uvmIs8Supported, "UVM_IS_8_SUPPORTED", decodeIs8Supported⟩]

theorem decodeUvmIoctl_eq (m : IoctlMeta) {argPtr : U64} (harg : argPtr ≠ 0) (maxBlob : ℕ) :
    decodeUvmIoctl m argPtr .full maxBlob =
      match Command.find uvmCommands (normalizeUvmCmd m.raw) with
      | some c => c.decoder argPtr
      | none => decodeUnknown argPtr maxBlob := by
  unfold decodeUvmIoctl
  rw [if_neg (by decide), if_neg harg]
  split_ifs with hnothing
  · rw [hnothing]
    rfl
  · split
    case h_72 =>
      have hnone : Command.find uvmCommands (normalizeUvmCmd m.raw) = none := by
        apply Command.find_none
        simp only [uvmCommands, List.forall_mem_cons]
        and_intros
        all_goals first | assumption | simp
      rw [hnone]
    all_goals
      rename_i h
      rw [h]
      rfl

theorem uvmCmdName_eq (cmd : U64) :
    uvmCmdName cmd =
      ((Command.find uvmCommands (normalizeUvmCmd cmd)).map Command.name).getD "UNKNOWN" := by
  unfold uvmCmdName
  split
  case h_73 =>
    have hnone : Command.find uvmCommands (normalizeUvmCmd cmd) = none := by
      apply Command.find_none
      simp only [uvmCommands, List.forall_mem_cons]
      and_intros
      all_goals first | assumption | simp
    rw [hnone]
    rfl
  all_goals
    rename_i h
    rw [h]
    rfl

end Uvm

/-! ### Names against dispatch -/

/-- Where a command goes in full mode with an argument. -/
inductive Dispatch where
  | nothing
  | dump (d : IoctlDecoder)
  | escape (c : Command Rm.EscapeDecoder)
  | uvm (c : Command (U64 → Decoding Report))

def dispatch (m : IoctlMeta) (fdPath : Option String) : Dispatch :=
  if isUvmPath fdPath then
    match Command.find Uvm.uvmCommands (Uvm.normalizeUvmCmd m.raw) with
    | some c => .uvm c
    | none => .dump .uvm
  else if isNvidiaRmPath fdPath ∧ m.iocType = nvIoctlMagic then
    match Command.find Rm.escapeCommands m.nr.toNat with
    | some c => .escape c
    | none => .dump .rm
  else .nothing

namespace Dispatch

def run (m : IoctlMeta) (argPtr : U64) (maxBlob : ℕ) : Dispatch → Decoding (Option (List Field))
  | nothing => pure none
  | dump .uvm => do
    let report ← Uvm.decodeUnknown argPtr maxBlob
    return some report.fields
  | dump .rm => do return some (← Rm.reportFields (Rm.decodeUnknown m argPtr maxBlob))
  | escape c => do return some (← c.decoder m argPtr maxBlob)
  | uvm c => do
    let report ← c.decoder argPtr
    return some report.fields

/-- The name of the command whose own decoder runs. -/
def own : Dispatch → Option String
  | nothing | dump _ => none
  | escape c => some c.name
  | uvm c => some c.name

end Dispatch

theorem decodeArgs_dispatch (m : IoctlMeta) {argPtr : U64} (harg : argPtr ≠ 0) (maxBlob : ℕ)
    (fdPath : Option String) :
    decodeArgs m argPtr .full maxBlob fdPath = (dispatch m fdPath).run m argPtr maxBlob := by
  unfold decodeArgs ioctlDecoder dispatch
  rw [if_neg (by decide)]
  by_cases huvm : isUvmPath fdPath = true
  · rw [if_pos huvm, if_pos huvm]
    simp only [Uvm.decodeUvmIoctl_eq m harg]
    cases Command.find Uvm.uvmCommands (Uvm.normalizeUvmCmd m.raw) with
    | none => rfl
    | some c => rfl
  · rw [if_neg huvm, if_neg huvm]
    by_cases hrm : isNvidiaRmPath fdPath = true
    · rw [if_pos hrm]
      simp only [Rm.decodeNvidiaIoctl, hrm, true_and, if_neg harg]
      by_cases htype : m.iocType = nvIoctlMagic
      · rw [if_neg (not_not.mpr htype), if_pos htype, Rm.decodeEscape_eq]
        cases Command.find Rm.escapeCommands m.nr.toNat with
        | none => rfl
        | some c => rfl
      · rw [if_pos htype, if_neg htype]
        rfl
    · rw [if_neg hrm, if_neg fun h => hrm h.1]
      rfl

def commandNames : List String :=
  Rm.escapeCommands.map Command.name ++ Uvm.uvmCommands.map Command.name

/-- The summary shows the name of a command exactly when the decoder of this command runs. -/
def NamesAgree (cmd : U64) (fdPath : Option String) : Prop :=
  ∀ name, name ∈ commandNames ∧ formatIocNr (decodeIoctlCmd cmd) fdPath = name ↔
    (dispatch (decodeIoctlCmd cmd) fdPath).own = some name

/-- A command of another type than the escapes, with the number of one. -/
def ForeignType (cmd : U64) (fdPath : Option String) : Prop :=
  isNvidiaRmPath fdPath ∧ (decodeIoctlCmd cmd).iocType ≠ nvIoctlMagic ∧
    (decodeIoctlCmd cmd).nr.toNat ∈ Rm.escapeCommands.map Command.number

instance (cmd : U64) (fdPath : Option String) : Decidable (ForeignType cmd fdPath) :=
  inferInstanceAs (Decidable (_ ∧ _ ∧ _))

theorem underscore_of_commandName : ∀ name ∈ commandNames, '_' ∈ name.toList := by
  simp only [commandNames, Rm.escapeCommands, Uvm.uvmCommands, List.map_cons, List.map_nil,
    List.cons_append, List.nil_append, List.forall_mem_cons]
  and_intros
  all_goals first | (rw [String.toList_ofList]; decide) | simp

theorem repr_not_commandName (n : ℕ) : n.repr ∉ commandNames := by
  intro h
  have hdigits : '_' ∈ Nat.toDigits 10 n := by
    have hmem := underscore_of_commandName _ h
    rwa [Nat.repr, String.toList_ofList] at hmem
  have hrange := mem_toDigits (by decide) hdigits
  revert hrange
  decide

theorem unknown_not_commandName : "UNKNOWN" ∉ commandNames := by
  intro h
  have hmem := underscore_of_commandName _ h
  revert hmem
  decide

theorem escape_mem_commandNames {c : Command Rm.EscapeDecoder} (h : c ∈ Rm.escapeCommands) :
    c.name ∈ commandNames := List.mem_append_left _ (List.mem_map_of_mem h)

theorem uvm_mem_commandNames {c : Command (U64 → Decoding Report)} (h : c ∈ Uvm.uvmCommands) :
    c.name ∈ commandNames := List.mem_append_right _ (List.mem_map_of_mem h)

theorem name_ne_unknown {name : String} (h : name ∈ commandNames) : name ≠ "UNKNOWN" :=
  fun he => unknown_not_commandName (he ▸ h)

/-- The name that the tables give the command on a device. -/
def tableName (m : IoctlMeta) (fdPath : Option String) : Option String :=
  if isUvmPath fdPath then
    (Command.find Uvm.uvmCommands (Uvm.normalizeUvmCmd m.raw)).map Command.name
  else if isNvidiaRmPath fdPath then
    (Command.find Rm.escapeCommands m.nr.toNat).map Command.name
  else none

theorem tableName_mem {m : IoctlMeta} {fdPath : Option String} {name : String}
    (h : tableName m fdPath = some name) : name ∈ commandNames := by
  unfold tableName at h
  split_ifs at h
  · obtain ⟨c, hfind, rfl⟩ := Option.map_eq_some_iff.mp h
    exact uvm_mem_commandNames (Command.find_mem hfind).1
  · obtain ⟨c, hfind, rfl⟩ := Option.map_eq_some_iff.mp h
    exact escape_mem_commandNames (Command.find_mem hfind).1

theorem formatIocNr_eq (m : IoctlMeta) (fdPath : Option String) :
    formatIocNr m fdPath = (tableName m fdPath).getD m.nr.toNat.repr := by
  have hmem : ∀ name, tableName m fdPath = some name → name ≠ "UNKNOWN" :=
    fun name h => name_ne_unknown (tableName_mem h)
  unfold formatIocNr
  unfold tableName at hmem ⊢
  rw [Uvm.uvmCmdName_eq, Rm.outerCmdName_eq]
  by_cases huvm : isUvmPath fdPath = true
  · rw [if_pos huvm] at hmem ⊢
    rw [if_pos huvm]
    cases hfind : Command.find Uvm.uvmCommands (Uvm.normalizeUvmCmd m.raw) with
    | none => rfl
    | some c =>
      rw [hfind] at hmem
      exact if_pos (hmem c.name rfl)
  · rw [if_neg huvm] at hmem ⊢
    rw [if_neg huvm]
    by_cases hrm : isNvidiaRmPath fdPath = true
    · rw [if_pos hrm] at hmem ⊢
      rw [hrm, Bool.true_and]
      cases hfind : Command.find Rm.escapeCommands m.nr.toNat with
      | none => rfl
      | some c =>
        rw [hfind] at hmem
        exact if_pos (decide_eq_true (hmem c.name rfl))
    · rw [if_neg hrm, if_neg]
      · rfl
      · simp [hrm]

/-- The field is the name of one command and no number is a name. -/
theorem namesAgree_iff_eq (cmd : U64) (fdPath : Option String) :
    NamesAgree cmd fdPath ↔
      tableName (decodeIoctlCmd cmd) fdPath = (dispatch (decodeIoctlCmd cmd) fdPath).own := by
  unfold NamesAgree
  generalize decodeIoctlCmd cmd = m
  simp only [formatIocNr_eq]
  cases hshown : tableName m fdPath with
  | none =>
    constructor
    · intro h
      cases hown : (dispatch m fdPath).own with
      | none => rfl
      | some name =>
        have hname : name ∈ commandNames ∧ m.nr.toNat.repr = name := (h name).mpr hown
        rw [← hname.2] at hname
        exact absurd hname.1 (repr_not_commandName _)
    · intro h name
      rw [← h]
      constructor
      · intro hname
        have hrepr : m.nr.toNat.repr = name := hname.2
        rw [← hrepr] at hname
        exact absurd hname.1 (repr_not_commandName _)
      · intro hname
        cases hname
  | some shown =>
    have hmem := tableName_mem hshown
    constructor
    · intro h
      exact ((h shown).mp ⟨hmem, rfl⟩).symm
    · intro h name
      rw [← h, Option.some.injEq, Option.getD_some]
      exact and_iff_right_of_imp fun he => he ▸ hmem

theorem not_isNvidiaRmPath {fdPath : Option String} (h : isUvmPath fdPath = true) :
    isNvidiaRmPath fdPath = false := by
  cases fdPath with
  | none => rfl
  | some path =>
    have hpath : startsWith path "/dev/nvidia-uvm" = true := h
    show (startsWith path "/dev/nvidia" && !startsWith path "/dev/nvidia-uvm") = false
    rw [hpath]
    exact Bool.and_false _

theorem Command.find_isSome {D : Type} {commands : List (Command D)} {number : ℕ} :
    (Command.find commands number).isSome ↔ number ∈ commands.map Command.number := by
  rw [Command.find, List.find?_isSome, List.mem_map]
  simp only [decide_eq_true_eq]
  exact exists_congr fun c => and_congr_right fun _ => eq_comm

/-- Where an argument goes, and that the name agrees with it unless the type is foreign. -/
theorem names_agree_unless_foreign (cmd : U64) (fdPath : Option String) :
    (∀ argPtr ≠ 0, ∀ maxBlob, decodeArgs (decodeIoctlCmd cmd) argPtr .full maxBlob fdPath =
      (dispatch (decodeIoctlCmd cmd) fdPath).run (decodeIoctlCmd cmd) argPtr maxBlob) ∧
    (NamesAgree cmd fdPath ↔ ¬ForeignType cmd fdPath) := by
  constructor
  · intro argPtr harg maxBlob
    exact decodeArgs_dispatch _ harg maxBlob fdPath
  rw [namesAgree_iff_eq]
  unfold ForeignType tableName dispatch
  generalize decodeIoctlCmd cmd = m
  by_cases huvm : isUvmPath fdPath = true
  · rw [if_pos huvm, if_pos huvm, not_isNvidiaRmPath huvm]
    cases Command.find Uvm.uvmCommands (Uvm.normalizeUvmCmd m.raw) with
    | none => simp [Dispatch.own]
    | some c => simp [Dispatch.own]
  · rw [if_neg huvm, if_neg huvm]
    by_cases hrm : isNvidiaRmPath fdPath = true
    · rw [if_pos hrm, ← Command.find_isSome]
      simp only [hrm, true_and]
      by_cases htype : m.iocType = nvIoctlMagic
      · rw [if_pos htype]
        cases Command.find Rm.escapeCommands m.nr.toNat with
        | none => simp [Dispatch.own]
        | some c => simp [Dispatch.own, htype]
      · rw [if_neg htype]
        cases Command.find Rm.escapeCommands m.nr.toNat with
        | none => simp [Dispatch.own]
        | some c => simp [Dispatch.own, htype]
    · rw [if_neg hrm, if_neg fun h => hrm h.1]
      simp [Dispatch.own, hrm]

/-- A terminal request on a GPU device is shown as the escape that frees an object. -/
theorem terminalRequest_named_free :
    formatIocNr (decodeIoctlCmd 0x5429) (some "/dev/nvidia0") = "NV_ESC_RM_FREE" ∧
      dispatch (decodeIoctlCmd 0x5429) (some "/dev/nvidia0") = .nothing ∧
      ¬NamesAgree 0x5429 (some "/dev/nvidia0") := by
  have hname : tableName (decodeIoctlCmd 0x5429) (some "/dev/nvidia0") = some "NV_ESC_RM_FREE" := by
    decide +kernel
  have hnothing : dispatch (decodeIoctlCmd 0x5429) (some "/dev/nvidia0") = .nothing := by
    unfold dispatch
    rw [if_neg (by decide), if_neg (by decide)]
  refine ⟨?_, hnothing, ?_⟩
  · rw [formatIocNr_eq, hname]
    rfl
  · rw [namesAgree_iff_eq, hname, hnothing]
    decide

end CudaTrace.Decode
