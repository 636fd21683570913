import CudaTrace.Decode.Places
import CudaTrace.Decode.RmControl

/-!
# Where the numbers of a control command stand

The members of a report on a control command, with the offsets that the declarations of
the parameter blocks in decode/ioctl_rm.rs and decode/nvidia.rs give them.
-/

namespace CudaTrace.Decode.Rm
open CudaTrace.Base CudaTrace.Base.Checked
open CudaTrace.Ptrace (U32 U64 I32 I64)

/-! ### Parts of a parameter block -/

def grRouteInfoRows : List Row := [.hex 4 "flags" 0, .hex 8 "route" 8]

def sharePolicyRows : List Row :=
  [.hex 4 "target" 0, .hex 4 "accessMask" 4, .unsigned 2 "type" 8, .unsigned 1 "action" 10]

def activeDeviceRows : List Row :=
  [.unsigned 4 "gpuId" 0, .unsigned 4 "gpuInstanceId" 4, .unsigned 4 "computeInstanceId" 8]

def boostGroupRows : List Row :=
  [.unsigned 4 "gpuCount" 0, .given "gpuIds" (fun a => numberList (a + 4) 4),
   .hex 4 "boostGroupId" 132, .note "bridgeless"]

def xxxInfoRows : List Row := [.hex 4 "index" 0, .hex 4 "data" 4]

def pciBarInfoRows : List Row :=
  [.hex 4 "flags" 0, .unsigned 4 "barSizeMb" 4, .unsigned 8 "barSizeBytes" 8,
   .hex 8 "barOffset" 16]

def atomicOpRows : List Row := [.note "op", .note "supported", .hex 4 "attributes" 4]

def globalSmRows : List Row :=
  [.unsigned 2 "gpcId" 0, .unsigned 2 "localTpcId" 2, .unsigned 2 "localSmId" 4,
   .unsigned 2 "globalTpcId" 6, .unsigned 2 "virtualGpcId" 8, .unsigned 2 "migratableTpcId" 10,
   .unsigned 2 "uGpuId" 12, .unsigned 2 "physicalCpcId" 14, .unsigned 2 "virtualTpcId" 16]

def grmgrQueryRows : List Row :=
  [.unsigned 2 "queryType" 0, .note "queryName", .code "queryStatus" 4,
   .given "queryData" fun a => numberList (a + 8) 4]

def eccUnitRows (unit : ℕ) : List Row :=
  [.given "unit" (fun _ => .exactly unit), .note "enabled", .note "supported",
   .note "scrubComplete", .unsigned 8 "dbe" 8, .unsigned 8 "dbeNonResettable" 16,
   .unsigned 8 "sbe" 24, .unsigned 8 "sbeNonResettable" 32]

def ceCapsRows (ce : ℕ) : List Row :=
  [.given "ce" (fun _ => .exactly ce), .note "present",
   .given "caps0" (fun a => .number ⟨a, 1, false⟩),
   .given "caps1" fun a => .number ⟨a + 1, 1, false⟩]

/-- What a pointer in memory points to. -/
def pointedForm (addr : ℕ) (form : ℕ → Form) : Form := .behind ⟨addr, 8, false⟩ form

def matrixForm (base cols : ℕ) : Form := .list fun i => numberList (base + i * (cols * 4)) 4

/-- The rows of a command that is only known by the name of its interface. -/
def legacyRows (cmd : U32) (size : ℕ) : List Row :=
  [.note "name", .note "interface", .note "msg_id", .given "params_size" (fun _ => .exactly size),
   .hex 4 "word0" 0, .hex 4 "word1" 4,
   .given (paramsKey (rmControlCmdName cmd)) (fun a => numberList a 4), .note "truncated"]

/-- What the report on a command shows of its parameter block of `size` bytes. -/
def controlRows (cmd size : ℕ) : List Row :=
  match cmd with
  | nv0000CtrlCmdClientGetAddrSpaceType =>
    [.hex 4 "hObject" 0, .hex 4 "mapFlags" 4, .hex 4 "addrSpaceType" 8, .note "addrSpaceTypeName"]
  | nv0000CtrlCmdOsUnixGetControlFileDescriptor =>
    [.signed 4 "fd" 0]
  | nv0000CtrlCmdSystemGetBuildVersion =>
    [.unsigned 4 "sizeOfStrings" 0, .hex 8 "pDriverVersionBuffer" 8, .hex 8 "pVersionBuffer" 16,
     .hex 8 "pTitleBuffer" 24, .unsigned 4 "changelistNumber" 32,
     .unsigned 4 "officialChangelistNumber" 36]
  | nv0000CtrlCmdClientSetInheritedSharePolicy =>
    [.given "sharePolicy" fun a => recordForm a sharePolicyRows]
  | nv0000CtrlCmdSystemGetFeatures =>
    [.hex 4 "featuresMask" 0, .note "featureSli", .note "featureUuidBasedMemSharing",
     .note "featureRmTestOnlyCode"]
  | nv0000CtrlCmdSystemGetFabricStatus =>
    [.unsigned 4 "fabricStatus" 0, .note "fabricStatusName"]
  | nv0000CtrlCmdSystemGetP2pCapsMatrix =>
    [.unsigned 4 "grpACount" 0, .unsigned 4 "grpBCount" 4,
     .given "gpuIdGrpA" (fun a => numberList (a + 8) 4),
     .given "gpuIdGrpB" (fun a => numberList (a + 40) 4),
     .given "p2pCaps" (fun a => matrixForm (a + 72) 8),
     .given "a2bOptimalReadCes" (fun a => matrixForm (a + 328) 8),
     .given "a2bOptimalWriteCes" (fun a => matrixForm (a + 584) 8),
     .given "b2aOptimalReadCes" (fun a => matrixForm (a + 840) 8),
     .given "b2aOptimalWriteCes" (fun a => matrixForm (a + 1096) 8), .note "truncated"]
  | nv0000CtrlCmdGpuGetMemopEnable =>
    [.hex 4 "enableMask" 0, .note "memOpEnabled"]
  | nv0000CtrlCmdGpuGetAttachedIds =>
    [.counted "validCount", .given "gpuIds" fun a => numberList a 4]
  | nv0000CtrlCmdGpuGetIdInfo =>
    [.unsigned 4 "gpuId" 0, .hex 4 "gpuFlags" 4, .unsigned 4 "deviceInstance" 8,
     .unsigned 4 "subDeviceInstance" 12, .hex 8 "szNamePtr" 16, .unsigned 4 "sliStatus" 24,
     .unsigned 4 "boardId" 28, .unsigned 4 "gpuInstance" 32, .signed 4 "numaId" 36, .note "name"]
  | nv0000CtrlCmdGpuGetIdInfoV2 =>
    [.unsigned 4 "gpuId" 0, .hex 4 "gpuFlags" 4, .unsigned 4 "deviceInstance" 8,
     .unsigned 4 "subDeviceInstance" 12, .unsigned 4 "sliStatus" 16, .unsigned 4 "boardId" 20,
     .unsigned 4 "gpuInstance" 24, .signed 4 "numaId" 28]
  | nv0000CtrlCmdGpuGetProbedIds =>
    [.counted "gpuCount", .counted "excludedCount", .given "gpuIds" (fun a => numberList a 4),
     .given "excludedGpuIds" (fun a => numberList (a + 128) 4),
     .given "gpuFlags" fun a => numberList (a + 256) 4]
  | nv0000CtrlCmdGpuAttachIds =>
    [.counted "gpuCount", .given "gpuIds" (fun a => numberList a 4), .unsigned 4 "failedId" 128]
  | nv0000CtrlCmdGpuGetActiveDeviceIds =>
    [.unsigned 4 "numDevices" 0,
     .given "devices" (fun a => recordList (a + 4) 12 activeDeviceRows), .note "truncated"]
  | nv0000CtrlCmdSyncGpuBoostGroupInfo =>
    [.unsigned 4 "groupCount" 0, .given "groups" (fun a => recordList (a + 4) 140 boostGroupRows),
     .note "truncated"]
  | nv0080CtrlCmdHostGetCapsV2 =>
    [.given "capsTbl" fun a => numberList a 1]
  | nv0080CtrlCmdGpuGetNumSubdevices =>
    [.unsigned 4 "numSubDevices" 0]
  | nv0080CtrlCmdGpuGetClasslistV2 =>
    [.unsigned 4 "numClasses" 0, .given "classList" (fun a => numberList (a + 4) 4),
     .note "truncated"]
  | nv0080CtrlCmdGpuGetVirtualizationMode =>
    [.unsigned 4 "virtualizationMode" 0, .note "virtualizationModeName", .note "isGridBuild"]
  | nv0080CtrlCmdFifoGetChannellist =>
    [.unsigned 4 "numChannels" 0, .hex 8 "pChannelHandleList" 8, .hex 8 "pChannelList" 16,
     .given "channelHandleList" (fun a => pointedForm (a + 8) (numberList · 4)),
     .given "channelIdList" (fun a => pointedForm (a + 16) (numberList · 4)),
     .note "truncated"]
  | nv0080CtrlCmdPerfCudaLimitSetControl =>
    [.note "cudaLimit"]
  | nv0080CtrlCmdFbGetCapsV2 =>
    [.given "capsTbl" fun a => numberList a 1]
  | nv906fCtrlGetClassEngineid =>
    [.hex 4 "hObject" 0, .unsigned 4 "classEngineId" 4, .hex 4 "classId" 8, .hex 4 "engineId" 12]
  | nvc36fCtrlCmdGpfifoGetWorkSubmitToken =>
    [.unsigned 4 "workSubmitToken" 0]
  | nv2080CtrlCmdMcGetArchInfo =>
    [.hex 4 "architecture" 0, .hex 4 "implementation" 4, .hex 4 "revision" 8,
     .unsigned 1 "subRevision" 12]
  | nv2080CtrlCmdGpuGetInfoV2 =>
    [.unsigned 4 "gpuInfoListSize" 0,
     .given "gpuInfoList" (fun a => recordList (a + 4) 8 xxxInfoRows), .note "truncated"]
  | nv2080CtrlCmdGpuGetNameString =>
    [.hex 4 "gpuNameStringFlags" 0, .note "name", .note "encoding"]
  | nv2080CtrlCmdGpuGetShortNameString =>
    [.note "name"]
  | nv2080CtrlCmdGpuGetSimulationInfo =>
    [.unsigned 4 "type" 0, .note "typeName"]
  | nv2080CtrlCmdGpuGetEnginesV2 =>
    [.unsigned 4 "engineCount" 0, .given "engineList" (fun a => numberList (a + 4) 4),
     .note "truncated"]
  | nv2080CtrlCmdGpuQueryEccStatus =>
    [.counted "unitCount", .counted "enabledUnits", .counted "supportedUnits",
     .counted "scrubCompleteUnits", .counted "dbeTotal", .counted "sbeTotal",
     .note "fatalPoisonError", .unsigned 1 "uncorrectableError" 1641, .hex 4 "flags" 1644,
     .given "grRouteInfo" (fun a => recordForm (a + 1648) grRouteInfoRows),
     .given "unitSample" (fun a => .chosen fun i => recordForm (a + i * 40) (eccUnitRows i)),
     .note "sampleTruncated"]
  | nv2080CtrlCmdGpuQueryComputeModeRules =>
    [.unsigned 4 "rules" 0, .note "rulesName"]
  | nv2080CtrlCmdGpuGetGidInfo =>
    [.unsigned 4 "index" 0, .hex 4 "flags" 4, .unsigned 4 "length" 8, .note "gid",
     .given "gidBytes" fun a => numberList (a + 12) 1]
  | nv2080CtrlCmdFbGetInfoV2 =>
    [.unsigned 4 "fbInfoListSize" 0,
     .given "fbInfoList" (fun a => recordList (a + 4) 8 xxxInfoRows), .note "truncated"]
  | nv2080CtrlCmdBusGetPciInfo =>
    [.hex 4 "pciDeviceId" 0, .hex 4 "pciSubSystemId" 4, .hex 4 "pciRevisionId" 8,
     .hex 4 "pciExtDeviceId" 12]
  | nv2080CtrlCmdBusGetInfoV2 =>
    [.unsigned 4 "busInfoListSize" 0,
     .given "busInfoList" (fun a => recordList (a + 4) 8 xxxInfoRows), .note "truncated"]
  | nv2080CtrlCmdBusGetPciBarInfo =>
    [.unsigned 4 "pciBarCount" 0,
     .given "pciBarInfo" (fun a => recordList (a + 8) 24 pciBarInfoRows), .note "truncated"]
  | nv2080CtrlCmdBusGetPcieSupportedGpuAtomics =>
    [.unsigned 4 "capType" 0, .hex 4 "dbdf" 4,
     .given "atomicOp" fun a => recordList (a + 8) 8 atomicOpRows]
  | nv2080CtrlCmdBusGetC2cInfo =>
    [.note "isLinkUp", .note "linkInHighSpeed", .unsigned 4 "nrLinks" 4,
     .unsigned 4 "maxNrLinks" 8, .hex 4 "linkMask" 12, .unsigned 4 "perLinkBwMBps" 16,
     .unsigned 4 "perLinkLaneWidth" 20, .unsigned 4 "remoteType" 24, .note "remoteTypeName"]
  | nv2080CtrlCmdGrGetInfo =>
    [.unsigned 4 "grInfoListSize" 0, .hex 8 "grInfoListPtr" 8,
     .given "grInfoList" (fun a => pointedForm (a + 8) (recordList · 8 xxxInfoRows)),
     .note "truncated", .given "grRouteInfo" fun a => recordForm (a + 16) grRouteInfoRows]
  | nv2080CtrlCmdGrGetGlobalSmOrder =>
    [.unsigned 2 "numSm" 9216, .unsigned 2 "numTpc" 9218,
     .given "globalSmId" (fun a => recordList a 18 globalSmRows), .note "truncated",
     .given "grRouteInfo" fun a => recordForm (a + 9224) grRouteInfoRows]
  | nv2080CtrlCmdGrGetCapsV2 =>
    [.given "capsTbl" (fun a => numberList a 1), .note "capsPopulated",
     .given "grRouteInfo" fun a => recordForm (a + 24) grRouteInfoRows]
  | nv2080CtrlCmdGrGetGpcMask =>
    [.hex 4 "gpcMask" 16, .given "grRouteInfo" fun a => recordForm a grRouteInfoRows]
  | nv2080CtrlCmdGrGetTpcMask =>
    [.unsigned 4 "gpcId" 16, .hex 4 "tpcMask" 20,
     .given "grRouteInfo" fun a => recordForm a grRouteInfoRows]
  | nv2080CtrlCmdGrSetCtxswPreemptionMode =>
    [.hex 4 "flags" 0, .hex 4 "hChannel" 4, .unsigned 4 "gfxpPreemptMode" 8,
     .unsigned 4 "cilpPreemptMode" 12,
     .given "grRouteInfo" fun a => recordForm (a + 16) grRouteInfoRows]
  | nv2080CtrlCmdGrGetCtxBufferSize =>
    [.hex 4 "hChannel" 0, .unsigned 8 "totalBufferSize" 8]
  | nv2080CtrlCmdCeGetAllCaps =>
    [.hex 8 "presentMask" 128,
     .given "ceCaps" (fun a => .chosen fun i => recordForm (a + i * 2) (ceCapsRows i)),
     .counted "presentCount"]
  | nv2080CtrlCmdNvlinkGetNvlinkStatus =>
    [.hex 4 "enabledLinkMask" 0, .unsigned 1 "enabledLinksLenMasks" 8,
     (Row.hex 8 "enabledLinksMask0" 8).inside 8, .note "sublinkStateInstant",
     .note "nvleModeEnabled",
     .given "enabledNvlpwMask" (fun a => .number ⟨(a + size - 8) % 2 ^ 64, 8, false⟩),
     .given "paramsSize" fun _ => .exactly size]
  | nv2080CtrlCmdGspGetFeatures =>
    [.hex 4 "gspFeatures" 0, .note "valid", .note "defaultGspRmGpu", .note "firmwareVersion"]
  | nv2080CtrlCmdGrmgrGetGrFsInfo =>
    [.unsigned 2 "numQueries" 0, .given "queries" (fun a => recordList (a + 8) 20 grmgrQueryRows),
     .note "truncated"]
  | nvConfComputeCtrlCmdSystemGetCapabilities =>
    [.unsigned 1 "cpuCapability" 0, .unsigned 1 "gpusCapability" 1, .unsigned 1 "environment" 2,
     .unsigned 1 "ccFeature" 3, .unsigned 1 "devToolsMode" 4, .unsigned 1 "multiGpuMode" 5]
  | nva06cCtrlCmdGpfifoSchedule =>
    [.note "enable", .note "skipSubmit", .note "skipEnable"]
  | nva06cCtrlCmdSetTimeslice =>
    [.unsigned 8 "timesliceUs" 0]
  | nva06cCtrlCmdPreempt =>
    [.note "wait", .note "manualTimeout", .unsigned 4 "timeoutUs" 4]
  | nv83deCtrlCmdDebugSetExceptionMask =>
    [.hex 4 "exceptionMask" 0]
  | nv2080CtrlCmdPerfBoost =>
    [.hex 4 "flags" 0, .unsigned 4 "duration" 4]
  | _ => legacyRows (BitVec.ofNat 32 cmd) size

variable {w : World Target}

/-! ### Reading a parameter block -/

theorem shows_knownParams {T : Type} [Pod T] {addr size : ℕ} {rows : List Row}
    {onOk : T → Decoding Report} {r : Report}
    (h : (knownParams T addr size onOk w).outcome = .ok (some r))
    (hshow : ∀ bs, Holds w.state addr (Pod.size T) bs → (onOk (Pod.ofBytes bs) w).outcome = .ok r →
      Shows w.state (reportForm addr rows) (objectValue r.fields)) :
    Shows w.state (reportForm addr rows) (objectValue r.fields) := by
  unfold knownParams at h
  split at h
  · rw [ok_pure, Option.some.injEq] at h
    rw [← h]
    exact shows_failed w.state addr rows _
  · simp only [readPod, ok_bind, ok_ask] at h
    obtain ⟨o, ho, h⟩ := h
    cases o with
    | none => simp at h
    | some p =>
      obtain ⟨bs, hbs, rfl⟩ := Option.map_eq_some_iff.mp ho
      simp only [ok_bind, ok_pure, Option.some.injEq] at h
      obtain ⟨r', hr, rfl⟩ := h
      exact hshow bs (Target.holds hbs) hr

/-- A decoder that reports on the block alone. -/
theorem shows_block {T : Type} [Pod T] {addr size : ℕ} {rows : List Row} {members : T → List Field}
    {nodup : ∀ p, ((members p).map Field.key ++ ["status"]).Nodup} {r : Report}
    (h : (knownParams T addr size (fun p => pure (Report.ok (members p) (nodup p))) w).outcome =
      .ok (some r))
    (hrows : rows.all (Row.fits (Pod.size T)) = true)
    (hfits : ∀ bs, Fits bs rows (members (Pod.ofBytes bs)))
    (hgiven : ∀ bs, Holds w.state addr (Pod.size T) bs →
      Given w.state addr rows (members (Pod.ofBytes bs))) :
    Shows w.state (reportForm addr rows) (objectValue r.fields) := by
  refine shows_knownParams h fun bs hbs hr => ?_
  cases ok_pure.mp hr
  exact shows_report hbs hrows (hfits bs) (hgiven bs hbs)

section Parts
variable {t : Target} {base size : ℕ} {bs : List UInt8}

theorem shows_bytes {xs : List UInt8} (h : Entries t base xs) :
    Shows t (numberList base 1) (jsonU8Array xs).value := by
  refine shows_array fun i v hv => ?_
  obtain ⟨bs, hbs, rfl⟩ := h i v hv
  exact .decimal hbs.byte

theorem shows_hexByte (h : Holds t base 1 bs) :
    Shows t (.number ⟨base, 1, false⟩) (.str (hexU8 (Pod.ofBytes bs))) :=
  .bits (readHex_hexU8 _) (c := ⟨base, 1, false⟩) h.byte

theorem shows_hexBytes {xs : List UInt8} (h : Entries t base xs) :
    Shows t (numberList base 1) (jsonU8HexArray xs).value := by
  refine shows_array fun i v hv => ?_
  obtain ⟨bs, hbs, rfl⟩ := h i v hv
  exact shows_hexByte hbs

theorem shows_grRouteInfo (h : Holds t base size bs) (hsize : 16 ≤ size) :
    Shows t (recordForm base grRouteInfoRows) (jsonGrRouteInfo (Pod.ofBytes bs)).value := by
  exact shows_record (h.mono hsize) rfl rfl trivial

theorem shows_sharePolicy (h : Holds t base size bs) (hsize : 12 ≤ size) :
    Shows t (recordForm base sharePolicyRows) (jsonSharePolicy (Pod.ofBytes bs)).value := by
  exact shows_record (h.mono hsize) rfl rfl trivial

theorem shows_pointed {form : ℕ → Form} {j : Json} (h : Holds t base size bs) (hsize : 8 ≤ size)
    (hform : Shows t (form (Pod.ofBytes bs : U64).toNat) j) :
    Shows t (pointedForm base form) j := by
  have hptr : Holds t base (64 / 8) bs := h.mono hsize
  exact .behind (hptr.unsigned (by decide)) hform

theorem shows_size (t : Target) {n : ℕ} (h : n < 2 ^ 64) :
    Shows t (.exactly n) (.num (usizeAsU64 n).toNat 0) := by
  rw [usizeAsU64, BitVec.toNat_ofNat, Nat.mod_eq_of_lt h]
  exact .exactly n

end Parts

/-! ### Lists of a parameter block -/

theorem entries_clamped {α : Type} [Pod α] (off : ℕ) {n addr size : ℕ} {bs : List UInt8}
    {declared : U32} {p : List α × Bool} (hbs : Holds w.state addr size bs)
    (hoff : off + n * Pod.size α ≤ size)
    (h : (clamped (Pod.ofBytes (bs.drop off) : Vector α n) declared w).outcome = .ok p) :
    Entries w.state (addr + off) p.1 := by
  simp only [clamped, ok_bind, ok_pure] at h
  obtain ⟨shown, hshown, rfl⟩ := h
  exact entries_prefixOf off hbs hoff hshown

theorem entries_validGpuIds {t : Target} {base : ℕ} {ids : List U32} (h : Entries t base ids) :
    Entries t base (validGpuIds ids) := h.start (List.takeWhile_prefix _)

theorem entries_attachedIds {t : Target} {base : ℕ} {bs : List UInt8} (h : Holds t base 128 bs) :
    Entries t base (validGpuIds (Pod.ofBytes bs : Vector U32 32).toList) :=
  entries_validGpuIds (entries_vector h)

theorem shows_atomicOps {t : Target} {base : ℕ} {xs : List Nv2080CtrlBusPcieGpuAtomicOpInfo}
    (h : Entries t base xs) : Shows t (recordList base 8 atomicOpRows) (jsonAtomicOpArray xs).value := by
  refine shows_array fun i v hv => ?_
  obtain ⟨op, idx⟩ := v
  rw [List.getElem?_zipIdx, Option.map_eq_some_iff] at hv
  obtain ⟨x, hx, hpair⟩ := hv
  rw [Prod.mk.injEq] at hpair
  obtain ⟨obs, hobs, hop⟩ := h i x hx
  rw [← hpair.1, hop]
  exact shows_record hobs rfl rfl trivial

/-- The words behind a pointer, where any are shown. -/
theorem ok_readList {ptr : U64} {count size : ℕ} {ws : List U32}
    (h : (readList ptr count size w).outcome = .ok ws) :
    ws = [] ∨ ∃ len bs, w.state.bytes ptr.toNat len = some bs ∧ ws = words bs := by
  unfold readList at h
  split at h
  · rw [ok_pure] at h
    exact .inl h.symm
  · simp only [ok_bind] at h
    obtain ⟨len, -, o, ho, h⟩ := h
    simp only [readBytes, ok_bind, ok_ask] at ho
    obtain ⟨_, -, ho⟩ := ho
    cases o with
    | none => exact .inl (ok_pure.mp h).symm
    | some bs => exact .inr ⟨len, bs, ho, (ok_pure.mp h).symm⟩

theorem entries_readList {ptr : U64} {count size : ℕ} {ws : List U32}
    (h : (readList ptr count size w).outcome = .ok ws) : Entries w.state ptr.toNat ws := by
  rcases ok_readList h with rfl | ⟨len, bs, hbs, rfl⟩
  · intro i v hv
    simp at hv
  · exact entries_words hbs

theorem getElem?_xxxInfos {ws : List U32} {i : ℕ} {v : NvxxxxCtrlXxxInfo}
    (h : (xxxInfos ws)[i]? = some v) : ws[2 * i]? = some v.index ∧ ws[2 * i + 1]? = some v.data := by
  induction ws using xxxInfos.induct generalizing i with
  | case1 index data rest ih =>
    rw [xxxInfos] at h
    cases i with
    | zero =>
      rw [List.getElem?_cons_zero, Option.some.injEq] at h
      rw [← h]
      exact ⟨rfl, rfl⟩
    | succ i => exact ih h
  | case2 ws hshort =>
    rw [xxxInfos] at h
    · simp at h
    · exact hshort

theorem entries_xxxInfos {ptr : U64} {count size : ℕ} {ws : List U32}
    (h : (readList ptr count size w).outcome = .ok ws) :
    Entries w.state ptr.toNat (xxxInfos ws) := by
  intro i v hv
  obtain ⟨hindex, hdata⟩ := getElem?_xxxInfos hv
  rcases ok_readList h with rfl | ⟨len, bs, hbs, rfl⟩
  · simp at hindex
  · obtain ⟨-, hindex⟩ := getElem?_words hindex
    obtain ⟨hle, hdata⟩ := getElem?_words hdata
    have hlen := Target.length_bytes hbs
    have hpart : Holds w.state (ptr.toNat + i * 8) 8 (bs.drop (i * 8)) :=
      (Target.holds hbs).drop (by omega)
    have hmul : 4 * (2 * i) = i * 8 := by omega
    have hnext : 4 * (2 * i + 1) = i * 8 + 4 := by omega
    rw [hmul] at hindex
    rw [hnext] at hdata
    refine ⟨bs.drop (i * 8), hpart, ?_⟩
    calc v = ⟨v.index, v.data⟩ := rfl
      _ = ⟨Pod.ofBytes (bs.drop (i * 8)), Pod.ofBytes ((bs.drop (i * 8)).drop 4)⟩ := by
        rw [hindex, hdata, List.drop_drop]

theorem eq_of_getElem?_range {n i v : ℕ} (h : (List.range n)[i]? = some v) : v = i := by
  obtain ⟨hi, rfl⟩ := List.getElem?_eq_some_iff.mp h
  exact List.getElem_range hi

theorem shows_matrix (off : ℕ) {r c addr size rows cols : ℕ} {bs : List UInt8} {frag : Fragment}
    (hbs : Holds w.state addr size bs) (hoff : off + r * (c * 4) ≤ size)
    (h : (jsonU32Matrix (Pod.ofBytes (bs.drop off) : Vector (Vector U32 c) r) rows cols w).outcome =
      .ok frag) : Shows w.state (matrixForm (addr + off) c) frag.value := by
  obtain ⟨items, hitems, h⟩ := ok_bind.mp h
  cases ok_pure.mp h
  refine shows_each hitems fun i v item hv hitem => ?_
  obtain ⟨row, hrow, hitem⟩ := ok_bind.mp hitem
  obtain ⟨cells, hcells, hitem⟩ := ok_bind.mp hitem
  cases ok_pure.mp hitem
  cases eq_of_getElem?_range hv
  obtain ⟨rbs, hrbs, rfl⟩ := entries_vector (hbs.drop hoff) i row (ok_index hrow)
  refine shows_numbers (w := 32) rfl fun k x hx => ?_
  obtain ⟨col, hcol, hx⟩ := ok_forEach hcells hx
  cases eq_of_getElem?_range hcol
  exact entries_vector hrbs k x (ok_index hx)

/-! ### Commands -/

section Commands
variable {addr size : ℕ} {r : Report}

theorem shows_decodeCmdSystemGetP2pCapsMatrix
    (h : (decodeCmdSystemGetP2pCapsMatrix addr size w).outcome = .ok (some r)) :
    Shows w.state (reportForm addr (controlRows nv0000CtrlCmdSystemGetP2pCapsMatrix size))
      (objectValue r.fields) := by
  refine shows_knownParams h fun bs hbs hr => ?_
  obtain ⟨grpA, hgrpA, hr⟩ := ok_bind.mp hr
  obtain ⟨grpB, hgrpB, hr⟩ := ok_bind.mp hr
  obtain ⟨caps, hcaps, hr⟩ := ok_bind.mp hr
  obtain ⟨readA, hreadA, hr⟩ := ok_bind.mp hr
  obtain ⟨writeA, hwriteA, hr⟩ := ok_bind.mp hr
  obtain ⟨readB, hreadB, hr⟩ := ok_bind.mp hr
  obtain ⟨writeB, hwriteB, hr⟩ := ok_bind.mp hr
  cases ok_pure.mp hr
  have hidsA := entries_prefixOf 8 hbs (by decide) hgrpA
  have hidsB := entries_prefixOf 40 hbs (by decide) hgrpB
  exact shows_report hbs rfl rfl ⟨shows_numbers rfl hidsA, shows_numbers rfl hidsB,
    shows_matrix 72 hbs (by decide) hcaps, shows_matrix 328 hbs (by decide) hreadA,
    shows_matrix 584 hbs (by decide) hwriteA, shows_matrix 840 hbs (by decide) hreadB,
    shows_matrix 1096 hbs (by decide) hwriteB, trivial⟩

theorem shows_decodeCmdGpuGetIdInfo
    (h : (decodeCmdGpuGetIdInfo addr size w).outcome = .ok (some r)) :
    Shows w.state (reportForm addr (controlRows nv0000CtrlCmdGpuGetIdInfo size))
      (objectValue r.fields) := by
  refine shows_knownParams h fun bs hbs hr => ?_
  obtain ⟨name, -, hr⟩ := ok_bind.mp hr
  cases ok_pure.mp hr
  cases name with
  | none => exact shows_report hbs rfl rfl trivial
  | some name => exact shows_report hbs rfl rfl trivial

theorem shows_decodeCmdGpuGetProbedIds
    (h : (decodeCmdGpuGetProbedIds addr size w).outcome = .ok (some r)) :
    Shows w.state (reportForm addr (controlRows nv0000CtrlCmdGpuGetProbedIds size))
      (objectValue r.fields) := by
  refine shows_knownParams h fun bs hbs hr => ?_
  obtain ⟨flags, hflags, hr⟩ := ok_bind.mp hr
  cases ok_pure.mp hr
  have hshown := entries_prefixOf 256 hbs (by decide) hflags
  refine shows_report hbs rfl rfl ⟨?_, ?_, shows_hexNumbers rfl hshown, trivial⟩
  · exact shows_numbers rfl (entries_validGpuIds (entries_array 0 hbs (by decide)))
  · exact shows_numbers rfl (entries_validGpuIds (entries_array 128 hbs (by decide)))

theorem shows_decodeCmdGpuGetActiveDeviceIds
    (h : (decodeCmdGpuGetActiveDeviceIds addr size w).outcome = .ok (some r)) :
    Shows w.state (reportForm addr (controlRows nv0000CtrlCmdGpuGetActiveDeviceIds size))
      (objectValue r.fields) := by
  refine shows_knownParams h fun bs hbs hr => ?_
  obtain ⟨p, hp, hr⟩ := ok_bind.mp hr
  cases ok_pure.mp hr
  have hentries := entries_clamped 4 hbs (by decide) hp
  refine shows_report hbs rfl rfl ⟨?_, trivial⟩
  exact shows_records hentries rfl (fun _ => rfl) fun _ _ _ => trivial

theorem shows_decodeCmdGpuGetInfoV2
    (h : (decodeCmdGpuGetInfoV2 addr size w).outcome = .ok (some r)) :
    Shows w.state (reportForm addr (controlRows nv2080CtrlCmdGpuGetInfoV2 size))
      (objectValue r.fields) := by
  refine shows_knownParams h fun bs hbs hr => ?_
  obtain ⟨p, hp, hr⟩ := ok_bind.mp hr
  cases ok_pure.mp hr
  have hentries := entries_clamped 4 hbs (by decide) hp
  refine shows_report hbs rfl rfl ⟨?_, trivial⟩
  exact shows_records hentries rfl (fun _ => rfl) fun _ _ _ => trivial

theorem shows_decodeCmdFbGetInfoV2
    (h : (decodeCmdFbGetInfoV2 addr size w).outcome = .ok (some r)) :
    Shows w.state (reportForm addr (controlRows nv2080CtrlCmdFbGetInfoV2 size))
      (objectValue r.fields) := by
  refine shows_knownParams h fun bs hbs hr => ?_
  obtain ⟨p, hp, hr⟩ := ok_bind.mp hr
  cases ok_pure.mp hr
  have hentries := entries_clamped 4 hbs (by decide) hp
  refine shows_report hbs rfl rfl ⟨?_, trivial⟩
  exact shows_records hentries rfl (fun _ => rfl) fun _ _ _ => trivial

theorem shows_decodeCmdBusGetInfoV2
    (h : (decodeCmdBusGetInfoV2 addr size w).outcome = .ok (some r)) :
    Shows w.state (reportForm addr (controlRows nv2080CtrlCmdBusGetInfoV2 size))
      (objectValue r.fields) := by
  refine shows_knownParams h fun bs hbs hr => ?_
  obtain ⟨p, hp, hr⟩ := ok_bind.mp hr
  cases ok_pure.mp hr
  have hentries := entries_clamped 4 hbs (by decide) hp
  refine shows_report hbs rfl rfl ⟨?_, trivial⟩
  exact shows_records hentries rfl (fun _ => rfl) fun _ _ _ => trivial

theorem shows_decodeCmdBusGetPciBarInfo
    (h : (decodeCmdBusGetPciBarInfo addr size w).outcome = .ok (some r)) :
    Shows w.state (reportForm addr (controlRows nv2080CtrlCmdBusGetPciBarInfo size))
      (objectValue r.fields) := by
  refine shows_knownParams h fun bs hbs hr => ?_
  obtain ⟨p, hp, hr⟩ := ok_bind.mp hr
  cases ok_pure.mp hr
  have hentries := entries_clamped 8 hbs (by decide) hp
  refine shows_report hbs rfl rfl ⟨?_, trivial⟩
  exact shows_records hentries rfl (fun _ => rfl) fun _ _ _ => trivial

theorem shows_decodeCmdGpuGetClasslistV2
    (h : (decodeCmdGpuGetClasslistV2 addr size w).outcome = .ok (some r)) :
    Shows w.state (reportForm addr (controlRows nv0080CtrlCmdGpuGetClasslistV2 size))
      (objectValue r.fields) := by
  refine shows_knownParams h fun bs hbs hr => ?_
  obtain ⟨p, hp, hr⟩ := ok_bind.mp hr
  cases ok_pure.mp hr
  have hentries := entries_clamped 4 hbs (by decide) hp
  exact shows_report hbs rfl rfl ⟨shows_hexNumbers rfl hentries, trivial⟩

theorem shows_decodeCmdGpuGetEnginesV2
    (h : (decodeCmdGpuGetEnginesV2 addr size w).outcome = .ok (some r)) :
    Shows w.state (reportForm addr (controlRows nv2080CtrlCmdGpuGetEnginesV2 size))
      (objectValue r.fields) := by
  refine shows_knownParams h fun bs hbs hr => ?_
  obtain ⟨p, hp, hr⟩ := ok_bind.mp hr
  cases ok_pure.mp hr
  have hentries := entries_clamped 4 hbs (by decide) hp
  exact shows_report hbs rfl rfl ⟨shows_hexNumbers rfl hentries, trivial⟩

theorem shows_decodeCmdSyncGpuBoostGroupInfo
    (h : (decodeCmdSyncGpuBoostGroupInfo addr size w).outcome = .ok (some r)) :
    Shows w.state (reportForm addr (controlRows nv0000CtrlCmdSyncGpuBoostGroupInfo size))
      (objectValue r.fields) := by
  refine shows_knownParams h fun bs hbs hr => ?_
  obtain ⟨p, hp, hr⟩ := ok_bind.mp hr
  obtain ⟨groups, hgroups, hr⟩ := ok_bind.mp hr
  cases ok_pure.mp hr
  have hentries := entries_clamped 4 hbs (by decide) hp
  obtain ⟨items, hitems, hgroups⟩ := ok_bind.mp hgroups
  cases ok_pure.mp hgroups
  refine shows_report hbs rfl rfl ⟨shows_each hitems fun i v item hv hitem => ?_, trivial⟩
  obtain ⟨gbs, hgbs, rfl⟩ := hentries i v hv
  obtain ⟨ids, hids, hitem⟩ := ok_bind.mp hitem
  cases ok_pure.mp hitem
  have hshown := entries_prefixOf 4 hgbs (by decide) hids
  exact shows_record hgbs rfl rfl ⟨shows_numbers rfl hshown, trivial⟩

theorem shows_decodeCmdGrGetGlobalSmOrder
    (h : (decodeCmdGrGetGlobalSmOrder addr size w).outcome = .ok (some r)) :
    Shows w.state (reportForm addr (controlRows nv2080CtrlCmdGrGetGlobalSmOrder size))
      (objectValue r.fields) := by
  refine shows_knownParams h fun bs hbs hr => ?_
  obtain ⟨shown, hshown, hr⟩ := ok_bind.mp hr
  cases ok_pure.mp hr
  have hentries := entries_prefixOf 0 hbs (by decide) hshown
  refine shows_report hbs rfl rfl ⟨?_, shows_grRouteInfo (hbs.drop (by decide)) le_rfl, trivial⟩
  exact shows_records hentries rfl (fun _ => rfl) fun _ _ _ => trivial

theorem shows_decodeCmdGrmgrGetGrFsInfo
    (h : (decodeCmdGrmgrGetGrFsInfo addr size w).outcome = .ok (some r)) :
    Shows w.state (reportForm addr (controlRows nv2080CtrlCmdGrmgrGetGrFsInfo size))
      (objectValue r.fields) := by
  refine shows_knownParams h fun bs hbs hr => ?_
  obtain ⟨shown, hshown, hr⟩ := ok_bind.mp hr
  cases ok_pure.mp hr
  have hentries := entries_prefixOf 8 hbs (by decide) hshown
  refine shows_report hbs rfl rfl ⟨?_, trivial⟩
  refine shows_records hentries rfl (fun _ => rfl) fun a qbs hqbs => ⟨?_, trivial⟩
  exact shows_hexNumbers (w := 32) rfl (entries_array 8 (n := 3) hqbs (by decide))

theorem shows_decodeCmdFifoGetChannellist
    (h : (decodeCmdFifoGetChannellist addr size w).outcome = .ok (some r)) :
    Shows w.state (reportForm addr (controlRows nv0080CtrlCmdFifoGetChannellist size))
      (objectValue r.fields) := by
  refine shows_knownParams h fun bs hbs hr => ?_
  obtain ⟨handles, hhandles, hr⟩ := ok_bind.mp hr
  obtain ⟨channels, hchannels, hr⟩ := ok_bind.mp hr
  cases ok_pure.mp hr
  have hhandles : Shows w.state (pointedForm (addr + 8) (numberList · 4))
      (jsonU32HexArray handles).value :=
    shows_pointed (hbs.drop (by decide)) le_rfl (shows_hexNumbers rfl (entries_readList hhandles))
  have hchannels : Shows w.state (pointedForm (addr + 16) (numberList · 4))
      (jsonU32HexArray channels).value :=
    shows_pointed (hbs.drop (by decide)) le_rfl (shows_hexNumbers rfl (entries_readList hchannels))
  refine shows_fields ?_
  simp only [List.map_append]
  refine .append (.append (.append ?_ ?_) ?_) ?_
  · exact shows_part (List.Sublist.refl _) hbs rfl rfl trivial
  · unfold nonEmpty
    split
    · exact .nil
    · exact shows_part (List.drop_sublist 3 _) hbs rfl rfl ⟨hhandles, trivial⟩
  · unfold nonEmpty
    split
    · exact .nil
    · exact shows_part (List.drop_sublist 4 _) hbs rfl rfl ⟨hchannels, trivial⟩
  · exact shows_part (List.drop_sublist 5 _) hbs rfl rfl trivial

theorem shows_decodeCmdGrGetInfo
    (h : (decodeCmdGrGetInfo addr size w).outcome = .ok (some r)) :
    Shows w.state (reportForm addr (controlRows nv2080CtrlCmdGrGetInfo size))
      (objectValue r.fields) := by
  refine shows_knownParams h fun bs hbs hr => ?_
  obtain ⟨entries, hread, hr⟩ := ok_bind.mp hr
  cases ok_pure.mp hr
  have hentries := entries_xxxInfos hread
  refine shows_report hbs rfl rfl ⟨?_, shows_grRouteInfo (hbs.drop (by decide)) le_rfl, trivial⟩
  refine shows_pointed (hbs.drop (by decide)) le_rfl ?_
  exact shows_records hentries rfl (fun _ => rfl) fun _ _ _ => trivial

theorem shows_decodeCmdGpuGetGidInfo
    (h : (decodeCmdGpuGetGidInfo addr size w).outcome = .ok (some r)) :
    Shows w.state (reportForm addr (controlRows nv2080CtrlCmdGpuGetGidInfo size))
      (objectValue r.fields) := by
  refine shows_knownParams h fun bs hbs hr => ?_
  obtain ⟨p, hp, hr⟩ := ok_bind.mp hr
  cases ok_pure.mp hr
  have hentries := entries_clamped 12 hbs (by decide) hp
  refine shows_fields ?_
  dsimp only
  split
  · exact shows_part (List.Sublist.refl _) hbs rfl rfl trivial
  · exact shows_part (List.eraseIdx_sublist _ 3) hbs rfl rfl ⟨shows_bytes hentries, trivial⟩

theorem shows_decodeCmdGpuGetNameString
    (h : (decodeCmdGpuGetNameString addr size w).outcome = .ok (some r)) :
    Shows w.state (reportForm addr (controlRows nv2080CtrlCmdGpuGetNameString size))
      (objectValue r.fields) := by
  refine shows_knownParams h fun bs hbs hr => ?_
  split at hr
  · obtain ⟨name, -, hr⟩ := ok_bind.mp hr
    cases ok_pure.mp hr
    exact shows_report hbs rfl rfl trivial
  · obtain ⟨shown, -, hr⟩ := ok_bind.mp hr
    obtain ⟨name, -, hr⟩ := ok_bind.mp hr
    cases ok_pure.mp hr
    exact shows_report hbs rfl rfl trivial

theorem shows_decodeCmdGpuGetShortNameString
    (h : (decodeCmdGpuGetShortNameString addr size w).outcome = .ok (some r)) :
    Shows w.state (reportForm addr (controlRows nv2080CtrlCmdGpuGetShortNameString size))
      (objectValue r.fields) := by
  refine shows_knownParams h fun bs hbs hr => ?_
  obtain ⟨name, -, hr⟩ := ok_bind.mp hr
  cases ok_pure.mp hr
  exact shows_report hbs rfl rfl trivial

theorem shows_decodeCmdGspGetFeatures
    (h : (decodeCmdGspGetFeatures addr size w).outcome = .ok (some r)) :
    Shows w.state (reportForm addr (controlRows nv2080CtrlCmdGspGetFeatures size))
      (objectValue r.fields) := by
  refine shows_knownParams h fun bs hbs hr => ?_
  obtain ⟨version, -, hr⟩ := ok_bind.mp hr
  cases ok_pure.mp hr
  exact shows_report hbs rfl rfl trivial

theorem sampled_add {tally tally' : EccTally} {unit : Nv2080CtrlGpuQueryEccUnitStatus} {idx : ℕ}
    (h : (tally.add (unit, idx) w).outcome = .ok tally') :
    tally'.sampled = tally.sampled ∨ tally'.sampled = tally.sampled ++ [(idx, unit)] := by
  simp only [EccTally.add, ok_bind, ok_pure] at h
  obtain ⟨enabled, -, supported, -, scrub, -, nonZero, -, rfl⟩ := h
  dsimp only
  split
  · exact .inr rfl
  · exact .inl rfl

theorem sampled_unit {units : List Nv2080CtrlGpuQueryEccUnitStatus} {tally : EccTally}
    (h : (foldEach EccTally.add EccTally.zero units.zipIdx w).outcome = .ok tally) :
    ∀ x ∈ tally.sampled, units[x.1]? = some x.2 := by
  refine ok_foldEach (I := fun t => ∀ x ∈ t.sampled, units[x.1]? = some x.2) h ?_ ?_
  · intro x hx
    cases hx
  · intro t x t' hx ht hadd y hy
    have hplace := List.mem_zipIdx_iff_getElem?.mp hx
    rcases sampled_add hadd with hsame | hmore
    · rw [hsame] at hy
      exact ht y hy
    · rw [hmore] at hy
      rcases List.mem_append.mp hy with hy | hy
      · exact ht y hy
      · rw [List.mem_singleton.mp hy]
        exact hplace

/-- No array of a parameter block has that many entries. -/
theorem lt_of_getElem?_toList {α : Type} {n i : ℕ} {xs : Vector α n} {v : α}
    (h : xs.toList[i]? = some v) (hn : n ≤ 64) : i < 2 ^ 64 := by
  have hlt := (List.getElem?_eq_some_iff.mp h).1
  rw [Vector.length_toList] at hlt
  omega

theorem shows_decodeCmdGpuQueryEccStatus
    (h : (decodeCmdGpuQueryEccStatus addr size w).outcome = .ok (some r)) :
    Shows w.state (reportForm addr (controlRows nv2080CtrlCmdGpuQueryEccStatus size))
      (objectValue r.fields) := by
  refine shows_knownParams h fun bs hbs hr => ?_
  obtain ⟨tally, htally, hr⟩ := ok_bind.mp hr
  cases ok_pure.mp hr
  have hunits := entries_array (α := Nv2080CtrlGpuQueryEccUnitStatus) 0
    (n := nv2080CtrlGpuEccUnitCount) hbs (by decide)
  refine shows_report hbs rfl rfl ⟨shows_grRouteInfo (hbs.drop (by decide)) le_rfl, ?_, trivial⟩
  have hsampled := sampled_unit htally
  refine shows_chosen Prod.fst fun v hv => ?_
  obtain ⟨i, unit⟩ := v
  have hunit := hsampled (i, unit) hv
  obtain ⟨ubs, hubs, rfl⟩ := hunits i unit hunit
  have hi := lt_of_getElem?_toList hunit (by decide)
  exact shows_record hubs rfl rfl ⟨shows_size w.state hi, trivial⟩

theorem shows_decodeCmdCeGetAllCaps
    (h : (decodeCmdCeGetAllCaps addr size w).outcome = .ok (some r)) :
    Shows w.state (reportForm addr (controlRows nv2080CtrlCmdCeGetAllCaps size))
      (objectValue r.fields) := by
  refine shows_knownParams h fun bs hbs hr => ?_
  obtain ⟨rows, hrows, hr⟩ := ok_bind.mp hr
  cases ok_pure.mp hr
  have hcaps := entries_array (α := Vector UInt8 nv2080CtrlCeCapsTblSize) 0
    (n := nv2080CtrlMaxCes) hbs (by decide)
  refine shows_report hbs rfl rfl ⟨?_, trivial⟩
  refine shows_chosen CeCaps.ceIdx fun v hv => ?_
  obtain ⟨row, hrow, hid⟩ := List.mem_filterMap.mp hv
  obtain ⟨k, hk⟩ := List.mem_iff_getElem?.mp hrow
  obtain ⟨⟨caps, i⟩, hx, hitem⟩ := ok_forEach hrows hk
  have hplace := List.mem_zipIdx_iff_getElem?.mp (List.mem_of_getElem? hx)
  obtain ⟨cbs, hcbs, rfl⟩ := hcaps i caps hplace
  have hi := lt_of_getElem?_toList hplace (by decide)
  obtain ⟨shifted, -, hitem⟩ := ok_bind.mp hitem
  have hitem := ok_pure.mp hitem
  rw [show row = some v from hid] at hitem
  obtain ⟨-, hv⟩ := Option.ite_none_right_eq_some.mp hitem
  cases hv
  exact shows_record hcbs rfl rfl ⟨shows_size w.state hi, shows_hexByte (hcbs.mono (by decide)),
    shows_hexByte (hcbs.drop (by decide)), trivial⟩

theorem shows_decodeCmdNvlinkGetNvlinkStatus (hsize : size < 2 ^ 64)
    (h : (decodeCmdNvlinkGetNvlinkStatus addr size w).outcome = .ok (some r)) :
    Shows w.state (reportForm addr (controlRows nv2080CtrlCmdNvlinkGetNvlinkStatus size))
      (objectValue r.fields) := by
  refine shows_knownParams h fun bs hbs hr => ?_
  have hshown := shows_size w.state hsize
  split at hr
  · rename_i hlarge
    obtain ⟨stop, hstop, hr⟩ := ok_bind.mp hr
    obtain ⟨start, hstart, hr⟩ := ok_bind.mp hr
    obtain ⟨mask, hmask, hr⟩ := ok_bind.mp hr
    cases ok_pure.mp hr
    have hplace : start = (addr + size - 8) % 2 ^ 64 := by
      have hstop := ok_add hstop
      have hlarge : 8 ≤ size := hlarge
      have hstart := ok_sub (by rw [hstop]; exact Nat.mod_lt _ (by decide)) hstart
      have hsize8 : Pod.size U64 = 8 := rfl
      rw [hstart, hstop, hsize8, usizeLimit]
      omega
    have hmask : w.state.pod U64 start = mask := ok_ask.mp hmask
    cases mask with
    | none =>
      refine shows_fields ?_
      exact shows_part (List.eraseIdx_sublist _ 5) hbs rfl rfl ⟨hshown, trivial⟩
    | some m =>
      obtain ⟨mbs, hmbs, rfl⟩ := Option.map_eq_some_iff.mp hmask
      rw [hplace] at hmbs
      exact shows_report hbs rfl rfl ⟨shows_hex (Target.holds hmbs) rfl, hshown, trivial⟩
  · obtain ⟨mask, hmask, hr⟩ := ok_bind.mp hr
    cases ok_pure.mp hmask
    cases ok_pure.mp hr
    refine shows_fields ?_
    exact shows_part (List.eraseIdx_sublist _ 5) hbs rfl rfl ⟨hshown, trivial⟩

theorem shows_decodeCmdNv2080LegacyGeneric {cmd : U32} (hsize : size < 2 ^ 64)
    (h : (decodeCmdNv2080LegacyGeneric cmd addr size w).outcome = .ok (some r)) :
    Shows w.state (reportForm addr (legacyRows cmd size)) (objectValue r.fields) := by
  have hshown := shows_size w.state hsize
  have hempty : Holds w.state addr 0 [] := Target.holds rfl
  simp only [decodeCmdNv2080LegacyGeneric] at h
  split at h
  · cases ok_pure.mp h
  cases hname : nv2080InterfaceName ((cmd >>> 8).setWidth 8) with
  | none =>
    rw [hname] at h
    cases ok_pure.mp h
  | some name =>
    rw [hname] at h
    dsimp only at h
    split at h
    · cases ok_pure.mp h
    split at h
    · cases ok_pure.mp h
      exact shows_fields (shows_part (List.take_sublist 4 _) hempty rfl rfl ⟨hshown, trivial⟩)
    obtain ⟨o, ho, h⟩ := ok_bind.mp h
    cases o with
    | none => cases ok_pure.mp h
    | some bytes =>
      obtain ⟨_, -, ho⟩ := ok_bind.mp ho
      have hbytes : w.state.bytes addr (min size (maxWords * 4)) = some bytes := ok_ask.mp ho
      have hlen := Target.length_bytes hbytes
      cases ok_pure.mp h
      refine shows_fields ?_
      simp only [List.map_append]
      refine .append (.append (.append (.append ?_ ?_) ?_) ?_) ?_
      · exact shows_part (List.take_sublist 4 _) hempty rfl rfl ⟨hshown, trivial⟩
      · cases hword : (words bytes)[0]? with
        | none => exact .nil
        | some v =>
          obtain ⟨hle, rfl⟩ := getElem?_words hword
          have hfour : Holds w.state addr 4 bytes := (Target.holds hbytes).mono (by omega)
          have hsub := (List.take_sublist 1 _).trans (List.drop_sublist 4 (legacyRows cmd size))
          exact shows_part hsub hfour rfl rfl trivial
      · cases hword : (words bytes)[1]? with
        | none => exact .nil
        | some v =>
          obtain ⟨hle, rfl⟩ := getElem?_words hword
          have height : Holds w.state addr 8 bytes := (Target.holds hbytes).mono (by omega)
          have hsub := (List.take_sublist 1 _).trans (List.drop_sublist 5 (legacyRows cmd size))
          exact shows_part hsub height rfl rfl trivial
      · split
        · have hwords := shows_hexNumbers (w := 32) rfl (entries_words hbytes)
          exact shows_part (List.drop_sublist 6 _) hempty rfl rfl ⟨hwords, trivial⟩
        · exact .nil
      · exact shows_part (List.drop_sublist 7 _) hempty rfl rfl trivial

/-- A report on a control command shows its parameter block. -/
theorem shows_decodeKnownRmControl {cmd : U32} (hsize : size < 2 ^ 64)
    (h : (decodeKnownRmControl cmd addr size w).outcome = .ok (some r)) :
    Shows w.state (reportForm addr (controlRows cmd.toNat size)) (objectValue r.fields) := by
  unfold decodeKnownRmControl at h
  generalize hn : cmd.toNat = n at h ⊢
  split at h
  · exact shows_block h rfl (fun _ => rfl) fun _ _ => trivial
  · exact shows_block h rfl (fun _ => rfl) fun _ _ => trivial
  · exact shows_block h rfl (fun _ => rfl) fun _ _ => trivial
  · exact shows_block h rfl (fun _ => rfl) fun _ hbs =>
      ⟨shows_sharePolicy hbs (by decide), trivial⟩
  · exact shows_block h rfl (fun _ => rfl) fun _ _ => trivial
  · exact shows_block h rfl (fun _ => rfl) fun _ _ => trivial
  · exact shows_decodeCmdSystemGetP2pCapsMatrix h
  · exact shows_block h rfl (fun _ => rfl) fun _ _ => trivial
  · exact shows_block h rfl (fun _ => rfl) fun _ hbs =>
      ⟨shows_numbers rfl (entries_attachedIds hbs), trivial⟩
  · exact shows_decodeCmdGpuGetIdInfo h
  · exact shows_block h rfl (fun _ => rfl) fun _ _ => trivial
  · exact shows_decodeCmdGpuGetProbedIds h
  · exact shows_block h rfl (fun _ => rfl) fun _ hbs =>
      ⟨shows_numbers rfl (entries_attachedIds (hbs.mono (by decide))), trivial⟩
  · exact shows_decodeCmdGpuGetActiveDeviceIds h
  · exact shows_decodeCmdSyncGpuBoostGroupInfo h
  · exact shows_block h rfl (fun _ => rfl) fun _ hbs =>
      ⟨shows_bytes (entries_array 0 (n := 3) hbs (by decide)), trivial⟩
  · exact shows_block h rfl (fun _ => rfl) fun _ _ => trivial
  · exact shows_decodeCmdGpuGetClasslistV2 h
  · exact shows_block h rfl (fun _ => rfl) fun _ _ => trivial
  · exact shows_decodeCmdFifoGetChannellist h
  · exact shows_block h rfl (fun _ => rfl) fun _ _ => trivial
  · exact shows_block h rfl (fun _ => rfl) fun _ hbs =>
      ⟨shows_hexBytes (entries_array 0 (n := 3) hbs (by decide)), trivial⟩
  · exact shows_block h rfl (fun _ => rfl) fun _ _ => trivial
  · exact shows_block h rfl (fun _ => rfl) fun _ _ => trivial
  · exact shows_block h rfl (fun _ => rfl) fun _ _ => trivial
  · exact shows_decodeCmdGpuGetInfoV2 h
  · exact shows_decodeCmdGpuGetNameString h
  · exact shows_decodeCmdGpuGetShortNameString h
  · exact shows_block h rfl (fun _ => rfl) fun _ _ => trivial
  · exact shows_decodeCmdGpuGetEnginesV2 h
  · exact shows_decodeCmdGpuQueryEccStatus h
  · exact shows_block h rfl (fun _ => rfl) fun _ _ => trivial
  · exact shows_decodeCmdGpuGetGidInfo h
  · exact shows_decodeCmdFbGetInfoV2 h
  · exact shows_block h rfl (fun _ => rfl) fun _ _ => trivial
  · exact shows_decodeCmdBusGetInfoV2 h
  · exact shows_decodeCmdBusGetPciBarInfo h
  · exact shows_block h rfl (fun _ => rfl) fun _ hbs =>
      ⟨shows_atomicOps (entries_array 8 (n := 13) hbs (by decide)), trivial⟩
  · exact shows_block h rfl (fun _ => rfl) fun _ _ => trivial
  · exact shows_decodeCmdGrGetInfo h
  · exact shows_decodeCmdGrGetGlobalSmOrder h
  · exact shows_block h rfl (fun _ => rfl) fun _ hbs =>
      ⟨shows_hexBytes (entries_array 0 (n := 23) hbs (by decide)),
      shows_grRouteInfo (hbs.drop (by decide)) le_rfl, trivial⟩
  · exact shows_block h rfl (fun _ => rfl) fun _ hbs =>
      ⟨shows_grRouteInfo hbs (by decide), trivial⟩
  · exact shows_block h rfl (fun _ => rfl) fun _ hbs =>
      ⟨shows_grRouteInfo hbs (by decide), trivial⟩
  · exact shows_block h rfl (fun _ => rfl) fun _ hbs =>
      ⟨shows_grRouteInfo (hbs.drop (by decide)) le_rfl, trivial⟩
  · exact shows_block h rfl (fun _ => rfl) fun _ _ => trivial
  · exact shows_decodeCmdCeGetAllCaps h
  · exact shows_decodeCmdNvlinkGetNvlinkStatus hsize h
  · exact shows_decodeCmdGspGetFeatures h
  · exact shows_decodeCmdGrmgrGetGrFsInfo h
  · exact shows_block h rfl (fun _ => rfl) fun _ _ => trivial
  · exact shows_block h rfl (fun _ => rfl) fun _ _ => trivial
  · exact shows_block h rfl (fun _ => rfl) fun _ _ => trivial
  · exact shows_block h rfl (fun _ => rfl) fun _ _ => trivial
  · exact shows_block h rfl (fun _ => rfl) fun _ _ => trivial
  · exact shows_block h rfl (fun _ => rfl) fun _ _ => trivial
  · have hcmd : BitVec.ofNat 32 n = cmd := by rw [← hn, BitVec.ofNat_toNat, BitVec.setWidth_eq]
    rw [controlRows, hcmd]
    · exact shows_decodeCmdNv2080LegacyGeneric hsize h
    all_goals assumption

end Commands

end CudaTrace.Decode.Rm
