import CudaTrace.Decode.Places
import CudaTrace.Decode.Uvm

/-!
# Where the numbers of a memory command stand

The members of a report on a command of the unified memory driver, with the offsets that
the declarations of the structures in decode/ioctl_uvm.rs give them.
-/

namespace CudaTrace.Decode.Uvm
open CudaTrace.Base CudaTrace.Base.Checked
open CudaTrace.Ptrace (U32 U64 I32 I64)

def counterConfigRows : List Row :=
  [.unsigned 4 "scope" 0, .unsigned 4 "name" 4, .uuid "gpu_uuid" 8, .unsigned 4 "state" 24]

def gpuMappingRows : List Row :=
  [.uuid "gpu_uuid" 0, .unsigned 4 "gpuMappingType" 16, .unsigned 4 "gpuCachingType" 20,
    .unsigned 4 "gpuFormatType" 24, .unsigned 4 "gpuElementBits" 28,
    .unsigned 4 "gpuCompressionType" 32]

/-- What the report on a command shows of the argument at `addr`. -/
def uvmForm (cmd addr : ℕ) : Form :=
  match cmd with
  | uvmDeinitialize => reportForm addr []
  | uvmInitialize =>
    reportForm addr [.hex 8 "flags" 0, .signed 4 "rm_status" 8]
  | uvmReserveVa | uvmReleaseVa | uvmRegionDecommit | uvmUnsetPreferredLocation
  | uvmEnableReadDuplication | uvmDisableReadDuplication =>
    reportForm addr [.hex 8 "requestedBase" 0, .unsigned 8 "length" 8, .signed 4 "rm_status" 16]
  | uvmRegionCommit =>
    reportForm addr [
      .hex 8 "requestedBase" 0, .unsigned 8 "length" 8, .hex 8 "streamId" 16,
      .uuid "gpu_uuid" 24, .signed 4 "rm_status" 40]
  | uvmRegionSetStream =>
    reportForm addr [
      .hex 8 "requestedBase" 0, .unsigned 8 "length" 8, .hex 8 "newStreamId" 16,
      .uuid "gpu_uuid" 24, .signed 4 "rm_status" 40]
  | uvmSetStreamRunning =>
    reportForm addr [.hex 8 "streamId" 0, .signed 4 "rm_status" 8]
  | uvmSetStreamStopped =>
    reportForm addr [
      .unsigned 8 "nStreams" 256, .given "streamIds" fun a => numberList a 8,
      .note "truncated", .signed 4 "rm_status" 264]
  | uvmAddSession =>
    reportForm addr [.unsigned 4 "pidTarget" 0, .signed 4 "rm_status" 4]
  | uvmEnableCounters =>
    reportForm addr [
      .unsigned 4 "count" 896, .given "config" fun a => recordList a 28 counterConfigRows,
      .note "truncated", .signed 4 "rm_status" 900]
  | uvmMapCounter =>
    reportForm addr [
      .unsigned 4 "scope" 0, .unsigned 4 "counterName" 4, .uuid "gpu_uuid" 8, .hex 8 "addr" 24,
      .signed 4 "rm_status" 32]
  | uvmCreateEventQueue =>
    reportForm addr [
      .unsigned 4 "eventQueueIndex" 0, .unsigned 8 "queueSize" 8,
      .unsigned 8 "notificationCount" 16, .unsigned 8 "notificationHandle" 24,
      .unsigned 4 "timeStampType" 32, .signed 4 "rm_status" 36]
  | uvmRemoveEventQueue =>
    reportForm addr [.unsigned 4 "eventQueueIndex" 0, .signed 4 "rm_status" 4]
  | uvmMapEventQueue =>
    reportForm addr [
      .unsigned 4 "eventQueueIndex" 0, .hex 8 "userRODataAddr" 8, .hex 8 "userRWDataAddr" 16,
      .hex 8 "readIndexAddr" 24, .hex 8 "writeIndexAddr" 32, .hex 8 "queueBufferAddr" 40,
      .signed 4 "rm_status" 48]
  | uvmEventCtrl =>
    reportForm addr [
      .unsigned 4 "eventQueueIndex" 0, .signed 4 "eventType" 4, .unsigned 4 "enable" 8,
      .signed 4 "rm_status" 12]
  | uvmGetGpuUuidTable =>
    reportForm addr [
      .unsigned 4 "validCount" 512, .given "gpuUuids" uuidList, .note "truncated",
      .signed 4 "rm_status" 516]
  | uvmRegionSetBacking =>
    reportForm addr [
      .uuid "gpu_uuid" 0, .hex 4 "hAllocation" 16, .hex 8 "vaAddr" 24,
      .unsigned 8 "regionLength" 32, .signed 4 "rm_status" 40]
  | uvmRegionUnsetBacking =>
    reportForm addr [.hex 8 "vaAddr" 0, .unsigned 8 "regionLength" 8, .signed 4 "rm_status" 16]
  | uvmCreateRangeGroup =>
    reportForm addr [.unsigned 8 "rangeGroupId" 0, .signed 4 "rm_status" 8]
  | uvmDestroyRangeGroup =>
    reportForm addr [.unsigned 8 "rangeGroupId" 0, .signed 4 "rm_status" 8]
  | uvmRegisterGpuVaspace =>
    reportForm addr [
      .uuid "gpu_uuid" 0, .signed 4 "rmCtrlFd" 16, .hex 4 "hClient" 20, .hex 4 "hVaSpace" 24,
      .signed 4 "rm_status" 28]
  | uvmUnregisterGpuVaspace =>
    reportForm addr [.uuid "gpu_uuid" 0, .signed 4 "rm_status" 16]
  | uvmRegisterChannel =>
    reportForm addr [
      .uuid "gpu_uuid" 0, .signed 4 "rmCtrlFd" 16, .hex 4 "hClient" 20, .hex 4 "hChannel" 24,
      .hex 8 "base" 32, .unsigned 8 "length" 40, .signed 4 "rm_status" 48]
  | uvmUnregisterChannel =>
    reportForm addr [.hex 4 "hClient" 0, .hex 4 "hChannel" 4, .signed 4 "rm_status" 8]
  | uvmEnablePeerAccess | uvmDisablePeerAccess =>
    reportForm addr [.uuid "gpuUuidA" 0, .uuid "gpuUuidB" 16, .signed 4 "rm_status" 32]
  | uvmSetRangeGroup =>
    reportForm addr [
      .unsigned 8 "rangeGroupId" 0, .hex 8 "requestedBase" 8, .unsigned 8 "length" 16,
      .signed 4 "rm_status" 24]
  | uvmMapExternalAllocation =>
    reportForm addr [
      .hex 8 "base" 0, .unsigned 8 "length" 8, .unsigned 8 "offset" 16,
      .unsigned 8 "gpuAttributesCount" 9240,
      .given "perGpuAttributes" fun a => recordList (a + 24) 36 gpuMappingRows, .note "truncated",
      .signed 4 "rmCtrlFd" 9248, .hex 4 "hClient" 9252, .hex 4 "hMemory" 9256,
      .signed 4 "rm_status" 9260]
  | uvmFree =>
    reportForm addr [.hex 8 "base" 0, .signed 4 "rm_status" 8]
  | uvmMemMap =>
    reportForm addr [
      .hex 8 "regionBase" 0, .unsigned 8 "regionLength" 8, .signed 4 "rm_status" 16]
  | uvmRegisterGpu =>
    reportForm addr [
      .uuid "gpu_uuid" 0, .note "numaEnabled", .signed 4 "numaNodeId" 20,
      .signed 4 "rmCtrlFd" 24, .hex 4 "hClient" 28, .hex 4 "hSmcPartRef" 32,
      .signed 4 "rm_status" 36]
  | uvmUnregisterGpu =>
    reportForm addr [.uuid "gpu_uuid" 0, .signed 4 "rm_status" 16]
  | uvmPageableMemAccess =>
    reportForm addr [.note "pageableMemAccess", .signed 4 "rm_status" 4]
  | uvmPreventMigrationRangeGroups | uvmAllowMigrationRangeGroups =>
    reportForm addr [
      .unsigned 8 "numGroupIds" 256, .given "rangeGroupIds" fun a => numberList a 8,
      .note "truncated", .signed 4 "rm_status" 264]
  | uvmSetPreferredLocation =>
    reportForm addr [
      .hex 8 "requestedBase" 0, .unsigned 8 "length" 8, .uuid "preferredLocation" 16,
      .signed 4 "preferredCpuNumaNode" 32, .signed 4 "rm_status" 36]
  | uvmSetAccessedBy | uvmUnsetAccessedBy =>
    reportForm addr [
      .hex 8 "requestedBase" 0, .unsigned 8 "length" 8, .uuid "accessedByUuid" 16,
      .signed 4 "rm_status" 32]
  | uvmMigrate =>
    reportForm addr [
      .hex 8 "base" 0, .unsigned 8 "length" 8, .uuid "destinationUuid" 16, .hex 4 "flags" 32,
      .hex 8 "semaphoreAddress" 40, .unsigned 4 "semaphorePayload" 48,
      .signed 4 "cpuNumaNode" 52, .hex 8 "userSpaceStart" 56, .unsigned 8 "userSpaceLength" 64,
      .signed 4 "rm_status" 72]
  | uvmMigrateRangeGroup =>
    reportForm addr [
      .unsigned 8 "rangeGroupId" 0, .uuid "destinationUuid" 8, .signed 4 "rm_status" 24]
  | uvmEnableSystemWideAtomics | uvmDisableSystemWideAtomics =>
    reportForm addr [.uuid "gpu_uuid" 0, .signed 4 "rm_status" 16]
  | uvmToolsInitEventTracker | uvmToolsInitEventTrackerV2 =>
    reportForm addr [
      .hex 8 "queueBuffer" 0, .unsigned 8 "queueBufferSize" 8, .hex 8 "controlBuffer" 16,
      .uuid "processor" 24, .unsigned 4 "allProcessors" 40, .unsigned 4 "uvmFd" 44,
      .signed 4 "rm_status" 48]
  | uvmToolsSetNotificationThreshold =>
    reportForm addr [.unsigned 4 "notificationThreshold" 0, .signed 4 "rm_status" 4]
  | uvmToolsEventQueueEnableEvents | uvmToolsEventQueueDisableEvents =>
    reportForm addr [.hex 8 "eventTypeFlags" 0, .signed 4 "rm_status" 8]
  | uvmToolsEnableCounters | uvmToolsDisableCounters =>
    reportForm addr [.hex 8 "counterTypeFlags" 0, .signed 4 "rm_status" 8]
  | uvmToolsReadProcessMemory =>
    reportForm addr [
      .hex 8 "buffer" 0, .unsigned 8 "size" 8, .hex 8 "targetVa" 16, .unsigned 8 "bytesRead" 24,
      .signed 4 "rm_status" 32]
  | uvmToolsWriteProcessMemory =>
    reportForm addr [
      .hex 8 "buffer" 0, .unsigned 8 "size" 8, .hex 8 "targetVa" 16,
      .unsigned 8 "bytesWritten" 24, .signed 4 "rm_status" 32]
  | uvmToolsGetProcessorUuidTable | uvmToolsGetProcessorUuidTableV2 =>
    reportForm addr [.hex 8 "tablePtr" 0, .signed 4 "rm_status" 8]
  | uvmMapDynamicParallelismRegion | uvmUnmapExternal | uvmMapExternalSparse =>
    reportForm addr [
      .hex 8 "base" 0, .unsigned 8 "length" 8, .uuid "gpu_uuid" 16, .signed 4 "rm_status" 32]
  | uvmToolsFlushEvents | uvmCleanUpZombieResources | uvmClearAllAccessCounters =>
    reportForm addr [.signed 4 "rm_status" 0]
  | uvmAllocSemaphorePool =>
    reportForm addr [
      .hex 8 "base" 0, .unsigned 8 "length" 8, .unsigned 8 "gpuAttributesCount" 9232,
      .given "perGpuAttributes" fun a => recordList (a + 16) 36 gpuMappingRows, .note "truncated",
      .signed 4 "rm_status" 9240]
  | uvmPageableMemAccessOnGpu =>
    reportForm addr [.uuid "gpu_uuid" 0, .note "pageableMemAccess", .signed 4 "rm_status" 20]
  | uvmPopulatePageable =>
    reportForm addr [
      .hex 8 "base" 0, .unsigned 8 "length" 8, .hex 4 "flags" 16, .signed 4 "rm_status" 20]
  | uvmValidateVaRange =>
    reportForm addr [.hex 8 "base" 0, .unsigned 8 "length" 8, .signed 4 "rm_status" 16]
  | uvmCreateExternalRange =>
    reportForm addr [.hex 8 "base" 0, .unsigned 8 "length" 8, .signed 4 "rm_status" 16]
  | uvmMmInitialize =>
    reportForm addr [.signed 4 "uvmFd" 0, .signed 4 "rm_status" 4]
  | uvmAllocDeviceP2p =>
    reportForm addr [
      .hex 8 "base" 0, .unsigned 8 "length" 8, .unsigned 8 "offset" 16, .uuid "gpu_uuid" 24,
      .signed 4 "rmCtrlFd" 40, .hex 4 "hClient" 44, .hex 4 "hMemory" 48, .signed 4 "rm_status" 52]
  | uvmDiscard =>
    reportForm addr [
      .hex 8 "base" 0, .unsigned 8 "length" 8, .hex 8 "flags" 16, .signed 4 "rm_status" 24]
  | uvmIs8Supported =>
    reportForm addr [.note "is8Supported", .signed 4 "rm_status" 4]
  | _ => .derived

variable {w : World Target}

theorem shows_withParams {T : Type} [Pod T] {argPtr : U64} {rows : List Row}
    {onOk : T → Decoding Report} {r : Report}
    (h : (withParams T argPtr onOk w).outcome = .ok r) (hok : r.status = "ok")
    (hshow : ∀ bs, Holds w.state argPtr.toNat (Pod.size T) bs →
      (onOk (Pod.ofBytes bs) w).outcome = .ok r →
      Shows w.state (reportForm argPtr.toNat rows) (objectValue r.fields)) :
    Shows w.state (reportForm argPtr.toNat rows) (objectValue r.fields) := by
  simp only [withParams, readPod, ok_bind, ok_ask] at h
  obtain ⟨o, ho, h⟩ := h
  cases o with
  | none =>
    rw [ok_pure] at h
    rw [← h] at hok
    exact absurd hok (by decide)
  | some p =>
    obtain ⟨bs, hbs, rfl⟩ := Option.map_eq_some_iff.mp ho
    exact hshow bs (Target.holds hbs) h

/-- A decoder that reports on the structure alone. -/
theorem shows_plain {T : Type} [Pod T] {argPtr : U64} {rows : List Row} {members : T → List Field}
    {nodup : ∀ p, ((members p).map Field.key ++ ["status"]).Nodup} {r : Report}
    (h : (withParams T argPtr (fun p => pure (Report.ok (members p) (nodup p))) w).outcome = .ok r)
    (hok : r.status = "ok") (hrows : rows.all (Row.fits (Pod.size T)) = true)
    (hfits : ∀ bs, Fits bs rows (members (Pod.ofBytes bs)))
    (hgiven : ∀ p, Given w.state argPtr.toNat rows (members p)) :
    Shows w.state (reportForm argPtr.toNat rows) (objectValue r.fields) := by
  refine shows_withParams h hok fun bs hbs hr => ?_
  rw [ok_pure] at hr
  rw [← hr]
  exact shows_report hbs hrows (hfits bs) (hgiven _)

/-! ### Decoders that show an array -/

theorem shows_decodeSetStreamStopped {argPtr : U64} {r : Report}
    (h : (decodeSetStreamStopped argPtr w).outcome = .ok r) (hok : r.status = "ok") :
    Shows w.state (uvmForm uvmSetStreamStopped argPtr.toNat) (objectValue r.fields) := by
  refine shows_withParams h hok fun bs hbs hr => ?_
  obtain ⟨shown, hshown, hr⟩ := ok_bind.mp hr
  cases ok_pure.mp hr
  have hentries := entries_prefixOf 0 hbs (by decide) hshown
  exact shows_report hbs rfl rfl ⟨shows_numbers rfl hentries, trivial⟩

theorem shows_decodeEnableCounters {argPtr : U64} {r : Report}
    (h : (decodeEnableCounters argPtr w).outcome = .ok r) (hok : r.status = "ok") :
    Shows w.state (uvmForm uvmEnableCounters argPtr.toNat) (objectValue r.fields) := by
  refine shows_withParams h hok fun bs hbs hr => ?_
  obtain ⟨shown, hshown, hr⟩ := ok_bind.mp hr
  cases ok_pure.mp hr
  have hentries := entries_prefixOf 0 hbs (by decide) hshown
  refine shows_report hbs rfl rfl ⟨?_, trivial⟩
  exact shows_records hentries rfl (fun _ => rfl) fun _ _ _ => trivial

theorem shows_decodeGetGpuUuidTable {argPtr : U64} {r : Report}
    (h : (decodeGetGpuUuidTable argPtr w).outcome = .ok r) (hok : r.status = "ok") :
    Shows w.state (uvmForm uvmGetGpuUuidTable argPtr.toNat) (objectValue r.fields) := by
  refine shows_withParams h hok fun bs hbs hr => ?_
  obtain ⟨shown, hshown, hr⟩ := ok_bind.mp hr
  cases ok_pure.mp hr
  have hentries := entries_prefixOf 0 hbs (by decide) hshown
  exact shows_report hbs rfl rfl ⟨shows_uuids hentries, trivial⟩

theorem shows_decodeMapExternalAllocation {argPtr : U64} {r : Report}
    (h : (decodeMapExternalAllocation argPtr w).outcome = .ok r) (hok : r.status = "ok") :
    Shows w.state (uvmForm uvmMapExternalAllocation argPtr.toNat) (objectValue r.fields) := by
  refine shows_withParams h hok fun bs hbs hr => ?_
  obtain ⟨shown, hshown, hr⟩ := ok_bind.mp hr
  cases ok_pure.mp hr
  have hentries := entries_prefixOf 24 hbs (by decide) hshown
  refine shows_report hbs rfl rfl ⟨?_, trivial⟩
  exact shows_records hentries rfl (fun _ => rfl) fun _ _ _ => trivial

theorem shows_decodePreventMigrationRangeGroups {argPtr : U64} {r : Report}
    (h : (decodePreventMigrationRangeGroups argPtr w).outcome = .ok r) (hok : r.status = "ok") :
    Shows w.state (uvmForm uvmPreventMigrationRangeGroups argPtr.toNat) (objectValue r.fields) := by
  refine shows_withParams h hok fun bs hbs hr => ?_
  obtain ⟨shown, hshown, hr⟩ := ok_bind.mp hr
  cases ok_pure.mp hr
  have hentries := entries_prefixOf 0 hbs (by decide) hshown
  exact shows_report hbs rfl rfl ⟨shows_numbers rfl hentries, trivial⟩

theorem shows_decodeAllocSemaphorePool {argPtr : U64} {r : Report}
    (h : (decodeAllocSemaphorePool argPtr w).outcome = .ok r) (hok : r.status = "ok") :
    Shows w.state (uvmForm uvmAllocSemaphorePool argPtr.toNat) (objectValue r.fields) := by
  refine shows_withParams h hok fun bs hbs hr => ?_
  obtain ⟨shown, hshown, hr⟩ := ok_bind.mp hr
  cases ok_pure.mp hr
  have hentries := entries_prefixOf 16 hbs (by decide) hshown
  refine shows_report hbs rfl rfl ⟨?_, trivial⟩
  exact shows_records hentries rfl (fun _ => rfl) fun _ _ _ => trivial

theorem status_decodeUnknown {argPtr : U64} {maxBlob : ℕ} {r : Report}
    (h : (decodeUnknown argPtr maxBlob w).outcome = .ok r) : r.status ≠ "ok" := by
  have hunknown : "unknown_cmd" ≠ "ok" := by decide
  have hunreadable : "arg_unreadable" ≠ "ok" := by decide
  simp only [decodeUnknown, ok_bind] at h
  obtain ⟨bytes, -, h⟩ := h
  cases bytes with
  | none =>
    rw [ok_pure] at h
    rw [← h]
    exact hunreadable
  | some bytes =>
    simp only [ok_bind, ok_pure] at h
    obtain ⟨text, -, rfl⟩ := h
    exact hunknown

/-- A report with status ok shows the argument. -/
theorem shows_decodeUvmIoctl {m : IoctlMeta} {argPtr : U64} {mode : IoctlDecodeMode} {maxBlob : ℕ}
    {r : Report} (h : (decodeUvmIoctl m argPtr mode maxBlob w).outcome = .ok r)
    (hok : r.status = "ok") :
    Shows w.state (uvmForm (normalizeUvmCmd m.raw) argPtr.toNat) (objectValue r.fields) := by
  unfold decodeUvmIoctl at h
  split at h
  · rw [ok_pure] at h
    rw [← h] at hok
    exact absurd hok (by decide)
  split at h
  · rename_i hcmd
    rw [ok_pure] at h
    rw [← h, hcmd]
    exact shows_members .nil
  split at h
  · rw [ok_pure] at h
    rw [← h] at hok
    exact absurd hok (by decide)
  generalize normalizeUvmCmd m.raw = cmd at h ⊢
  split at h
  all_goals first | exact shows_plain h hok (by decide) (fun _ => rfl) fun _ => trivial | skip
  · exact shows_decodeSetStreamStopped h hok
  · exact shows_decodeEnableCounters h hok
  · exact shows_decodeGetGpuUuidTable h hok
  · exact shows_decodeMapExternalAllocation h hok
  · exact shows_decodePreventMigrationRangeGroups h hok
  · exact shows_decodePreventMigrationRangeGroups h hok
  · exact shows_decodeAllocSemaphorePool h hok
  · exact absurd hok (status_decodeUnknown h)

end CudaTrace.Decode.Uvm
