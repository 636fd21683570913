import CudaTrace.Decode.RmNames

/-!
# Control commands (decode/ioctl_rm.rs)

The decoder of a control command gets the address and the size of its parameter
block. It reports nothing when the block cannot be read.
-/

namespace CudaTrace.Decode.Rm
open CudaTrace.Base CudaTrace.Base.Checked
open CudaTrace.Ptrace (U32 U64 I32 I64)

/-- `as u64` of a length. -/
def usizeAsU64 (n : ℕ) : U64 := BitVec.ofNat 64 n

/-! ### Lists -/

def validGpuIds (allIds : List U32) : List U32 := allIds.takeWhile fun id => id != 0xffffffff

def jsonU8Array (values : List UInt8) : Fragment := .array (values.map fun v => .nat v.toNat)

/-- `0x{:02x}`. -/
def hexU8 (v : UInt8) : String := "0x" ++ hexPad 2 v.toNat

theorem plain_hexU8 (v : UInt8) : Plain (hexU8 v) :=
  plain_append plain_0x (plain_hexPad 2 v.toNat)

def jsonU8HexArray (values : List UInt8) : Fragment :=
  .array (values.map fun v => .quoted (hexU8 v) (plain_hexU8 v))

def jsonHexArray {w : ℕ} (values : List (BitVec w)) : Fragment :=
  .array (values.map fun v => .quoted (hex v) (plain_hex v))

def jsonU32HexArray (values : List U32) : Fragment := jsonHexArray values

def jsonU64HexArray (values : List U64) : Fragment := jsonHexArray values

def jsonU32Array (values : List U32) : Fragment := .array (values.map fun v => .nat v.toNat)

def jsonU32Matrix {r c : ℕ} (values : Vector (Vector U32 c) r) (rows cols : ℕ) :
    Decoding Fragment := do
  let rowCount := min rows r
  let colCount := min cols c
  let items ← forEach (fun rowIdx => do
    let row ← index values.toList rowIdx
    let cells ← forEach (fun colIdx => index row.toList colIdx) (List.range colCount)
    return jsonU32Array cells) (List.range rowCount)
  return .array items

def jsonSharePolicy (policy : RsSharePolicy) : Fragment := (Members.mk
  [.str "target" (hex policy.target), .str "accessMask" (hex policy.accessMask.limbs[0]),
   .u64 "type" (zext policy.policyType), .u64 "action" (zext policy.action)]).finish

def jsonGrRouteInfo (route : Nv2080CtrlGrRouteInfo) : Fragment := (Members.mk
  [.str "flags" (hex route.flags), .str "route" (hex route.route)]).finish

def jsonActiveDeviceArray (values : List Nv0000CtrlGpuActiveDevice) : Fragment :=
  .array (values.map fun v => (Members.mk
    [.u64 "gpuId" (zext v.gpuId), .u64 "gpuInstanceId" (zext v.gpuInstanceId),
     .u64 "computeInstanceId" (zext v.computeInstanceId)]).finish)

def jsonSyncGpuBoostGroupArray (values : List Nv0000SyncGpuBoostGroupConfig) :
    Decoding Fragment := do
  let items ← forEach (fun (v : Nv0000SyncGpuBoostGroupConfig) => do
    let gpuCount := min v.gpuCount.toNat v.gpuIds.toList.length
    let gpuIds ← prefixOf v.gpuIds.toList gpuCount
    return (Members.mk
        [.u64 "gpuCount" (zext v.gpuCount), .raw "gpuIds" (jsonU32Array gpuIds),
         .str "boostGroupId" (hex v.boostGroupId),
         .bool "bridgeless" (v.bBridgeless != 0)]).finish) values
  return .array items

def jsonXxxInfoArray (values : List NvxxxxCtrlXxxInfo) : Fragment :=
  .array (values.map fun v => (Members.mk
    [.str "index" (hex v.index), .str "data" (hex v.data)]).finish)

def jsonGlobalSmOrderArray (values : List Nv2080CtrlGrGlobalSmId) : Fragment :=
  .array (values.map fun v => (Members.mk
    [.u64 "gpcId" (zext v.gpcId), .u64 "localTpcId" (zext v.localTpcId),
     .u64 "localSmId" (zext v.localSmId), .u64 "globalTpcId" (zext v.globalTpcId),
     .u64 "virtualGpcId" (zext v.virtualGpcId), .u64 "migratableTpcId" (zext v.migratableTpcId),
     .u64 "uGpuId" (zext v.ugpuId), .u64 "physicalCpcId" (zext v.physicalCpcId),
     .u64 "virtualTpcId" (zext v.virtualTpcId)]).finish)

def jsonEccUnitSampleArray (values : List (ℕ × Nv2080CtrlGpuQueryEccUnitStatus)) : Fragment :=
  .array (values.map fun (unitIdx, unit) => (Members.mk
    [.u64 "unit" (usizeAsU64 unitIdx), .bool "enabled" (unit.enabled != 0),
     .bool "supported" (unit.supported != 0), .bool "scrubComplete" (unit.scrubComplete != 0),
     .u64 "dbe" unit.dbe.count, .u64 "dbeNonResettable" unit.dbeNonResettable.count,
     .u64 "sbe" unit.sbe.count, .u64 "sbeNonResettable" unit.sbeNonResettable.count]).finish)

structure CeCaps where
  ceIdx : ℕ
  (caps0 caps1 : UInt8)
  present : Bool

def jsonCeCapsArray (values : List CeCaps) : Fragment :=
  .array (values.map fun v => (Members.mk
    [.u64 "ce" (usizeAsU64 v.ceIdx), .bool "present" v.present,
     .str "caps0" (hexU8 v.caps0), .str "caps1" (hexU8 v.caps1)]).finish)

def jsonGrmgrQueriesArray (values : List Nv2080CtrlGrmgrGrFsInfoQueryParams) : Fragment :=
  .array (values.map fun v => (Members.mk
    [.u64 "queryType" (zext v.queryType), .str "queryName" (grmgrQueryTypeName v.queryType),
     .i64 "queryStatus" (zext v.status),
     .raw "queryData" (jsonU32HexArray v.queryDataWords.toList)]).finish)

def jsonPciBarInfoArray (values : List Nv2080CtrlBusPciBarInfo) : Fragment :=
  .array (values.map fun v => (Members.mk
    [.str "flags" (hex v.flags), .u64 "barSizeMb" (zext v.barSize),
     .u64 "barSizeBytes" v.barSizeBytes, .str "barOffset" (hex v.barOffset)]).finish)

def jsonAtomicOpArray (values : List Nv2080CtrlBusPcieGpuAtomicOpInfo) : Fragment :=
  .array (values.zipIdx.map fun (v, idx) => (Members.mk
    [.str "op" (pcieAtomicOpName idx), .bool "supported" (v.bSupported != 0),
     .str "attributes" (hex v.attributes)]).finish)

/-! ### Parameter blocks -/

def knownSizeMismatch (expected actual : ℕ) : Report := .failed (sizeMismatch expected actual)

/-- What all `decode_cmd_*` functions do before they report: the block must be large
enough and readable. -/
def knownParams (T : Type) [Pod T] (paramsAddr paramsSize : ℕ) (onOk : T → Decoding Report) :
    Decoding (Option Report) := do
  let expected := Pod.size T
  if paramsSize < expected then return some (knownSizeMismatch expected paramsSize)
  match ← readPod T .params paramsAddr with
  | none => return none
  | some params => return some (← onOk params)

/-- The entries of a list that are shown, and whether some are left out. -/
def clamped {α : Type} {n : ℕ} (xs : Vector α n) (declared : U32) : Decoding (List α × Bool) := do
  let count := min declared.toNat xs.toList.length
  let shown ← prefixOf xs.toList count
  return (shown, count < declared.toNat)

/-- The words of `count` entries of `size` bytes; nothing when they cannot be read. -/
def readList (ptr : U64) (count size : ℕ) : Decoding (List U32) := do
  if ptr = 0 ∨ count = 0 then return []
  match ← readBytes .pointer ptr.toNat (← mul count size) with
  | some bytes => return words bytes
  | none => return []

def xxxInfos : List U32 → List NvxxxxCtrlXxxInfo
  | index :: data :: rest => ⟨index, data⟩ :: xxxInfos rest
  | _ => []

/-- `trim_matches(char::from(0))`. -/
def trimNul (s : String) : String :=
  let start := s.toList.dropWhile fun c => c = Char.ofNat 0
  String.ofList (start.reverse.dropWhile fun c => c = Char.ofNat 0).reverse

/-- The counters of the loop in `decode_cmd_gpu_query_ecc_status`. -/
structure EccTally where
  (enabledUnits supportedUnits scrubCompleteUnits nonZeroUnits : ℕ)
  (dbeTotal sbeTotal : U64)
  sampled : List (ℕ × Nv2080CtrlGpuQueryEccUnitStatus)

namespace EccTally

def zero : EccTally := ⟨0, 0, 0, 0, 0, 0, []⟩

def countIf (counter : ℕ) (c : Prop) [Decidable c] : Decoding ℕ :=
  if c then add counter 1 else pure counter

/-- `saturating_add`. -/
def saturatingAdd (a b : U64) : U64 := BitVec.ofNat 64 (min (a.toNat + b.toNat) (2 ^ 64 - 1))

/-- One round of the loop. -/
def add (t : EccTally) : Nv2080CtrlGpuQueryEccUnitStatus × ℕ → Decoding EccTally
  | (unit, idx) => do
    let enabledUnits ← countIf t.enabledUnits (unit.enabled ≠ 0)
    let supportedUnits ← countIf t.supportedUnits (unit.supported ≠ 0)
    let scrubCompleteUnits ← countIf t.scrubCompleteUnits (unit.scrubComplete ≠ 0)
    let dbeTotal := saturatingAdd t.dbeTotal unit.dbe.count
    let sbeTotal := saturatingAdd t.sbeTotal unit.sbe.count
    let nonZero := unit.enabled ≠ 0 ∨ unit.supported ≠ 0 ∨ unit.dbe.count ≠ 0 ∨ unit.sbe.count ≠ 0
    let nonZeroUnits ← countIf t.nonZeroUnits nonZero
    let sampled := if nonZero ∧ t.sampled.length < maxCtrlListItems then t.sampled ++ [(idx, unit)]
      else t.sampled
    return ⟨enabledUnits, supportedUnits, scrubCompleteUnits, nonZeroUnits, dbeTotal, sbeTotal,
      sampled⟩

end EccTally

/-! ### A key that depends on the command -/

/-- The key of the words of a block: the name of its type, where it has one. -/
def paramsKey (cmdName : String) : String := (rmControlParamsTypeName cmdName).getD "paramsPreview"

theorem paramsKey_eq (cmdName : String) :
    paramsKey cmdName = "paramsPreview" ∨ ∃ start, paramsKey cmdName = start ++ "_PARAMS" := by
  unfold paramsKey rmControlParamsTypeName
  split_ifs with hunknown
  · simp
  · split
    · simp
    · split_ifs with hsuffix
      · simp
      · exact .inr ⟨_, rfl⟩

theorem paramsKey_ne (cmdName : String) {key : String} (hlast : key.toList.getLast? ≠ some 'S')
    (hkey : key ≠ "paramsPreview") : paramsKey cmdName ≠ key := by
  rcases paramsKey_eq cmdName with hpreview | ⟨start, hparams⟩
  · rw [hpreview]
    exact hkey.symm
  · rw [hparams]
    rintro rfl
    apply hlast
    simp [String.toList_append]

theorem ne_paramsKey (cmdName : String) {key : String} (hlast : key.toList.getLast? ≠ some 'S')
    (hkey : key ≠ "paramsPreview") : key ≠ paramsKey cmdName :=
  (paramsKey_ne cmdName hlast hkey).symm

/-- Blocks of the commands that are only known by the name of their interface. -/
def decodeCmdNv2080LegacyGeneric (cmd : U32) (paramsAddr paramsSize : ℕ) :
    Decoding (Option Report) := do
  if cmd >>> 16 ≠ 0x2080 then return none
  let interface : U8 := (cmd >>> 8).setWidth 8
  let msgId : U8 := cmd.setWidth 8
  match nv2080InterfaceName interface with
  | none => return none
  | some interfaceName =>
    if contains interfaceName "LEGACY" = false then return none
    let readLen := min paramsSize (maxWords * 4)
    let cmdName := rmControlCmdName cmd
    let fields : List Field :=
      [.str "name" cmdName, .str "interface" interfaceName,
       .str "msg_id" ("0x" ++ hexPad 2 msgId.toNat), .u64 "params_size" (usizeAsU64 paramsSize)]
    if readLen = 0 then return some (Report.ok fields (by simp [fields]))
    match ← readBytes .params paramsAddr readLen with
    | none => return none
    | some bytes =>
      let ws := words bytes
      let word0 := (ws[0]?.map fun w => Field.str "word0" (hex w)).toList
      let word1 := (ws[1]?.map fun w => Field.str "word1" (hex w)).toList
      let all := if 2 < ws.length then [Field.raw (paramsKey cmdName) (jsonU32HexArray ws)] else []
      return some (Report.mk
        (fields ++ word0 ++ word1 ++ all ++ [.bool "truncated" (readLen < paramsSize)]) "ok"
        (by
          dsimp only [fields, word0, word1, all]
          cases ws[0]? <;> cases ws[1]? <;> split <;>
            simp (disch := decide) [paramsKey_ne, ne_paramsKey]))

/-! ### Commands -/

section
variable (paramsAddr paramsSize : ℕ)

/-- The list is left out when it is empty. -/
def nonEmpty (key : String) (values : List U32) : List Field :=
  if values = [] then [] else [.raw key (jsonU32HexArray values)]

def decodeCmdClientGetAddrSpaceType : Decoding (Option Report) :=
  knownParams Nv0000CtrlClientGetAddrSpaceTypeParams paramsAddr paramsSize fun p => pure <| .ok
    [.str "hObject" (hex p.hObject), .str "mapFlags" (hex p.mapFlags),
     .str "addrSpaceType" (hex p.addrSpaceType),
     .str "addrSpaceTypeName" (addrSpaceTypeName p.addrSpaceType)]

def decodeCmdOsUnixGetControlFileDescriptor : Decoding (Option Report) :=
  knownParams Nv0000CtrlOsUnixGetControlFileDescriptorParams paramsAddr paramsSize fun p =>
    pure <| .ok
      [.i64 "fd" (sext p.fd)]

def decodeCmdSystemGetBuildVersion : Decoding (Option Report) :=
  knownParams Nv0000CtrlSystemGetBuildVersionParams paramsAddr paramsSize fun p => pure <| .ok
    [.u64 "sizeOfStrings" (zext p.sizeOfStrings),
     .str "pDriverVersionBuffer" (hex p.pDriverVersionBuffer),
     .str "pVersionBuffer" (hex p.pVersionBuffer), .str "pTitleBuffer" (hex p.pTitleBuffer),
     .u64 "changelistNumber" (zext p.changelistNumber),
     .u64 "officialChangelistNumber" (zext p.officialChangelistNumber)]

def decodeCmdSystemGetFabricStatus : Decoding (Option Report) :=
  knownParams Nv0000CtrlSystemGetFabricStatusParams paramsAddr paramsSize fun p => pure <| .ok
    [.u64 "fabricStatus" (zext p.fabricStatus),
     .str "fabricStatusName" (fabricStatusName p.fabricStatus)]

def decodeCmdGpuGetMemopEnable : Decoding (Option Report) :=
  knownParams Nv0000CtrlGpuGetMemopEnableParams paramsAddr paramsSize fun p => pure <| .ok
    [.str "enableMask" (hex p.enableMask), .bool "memOpEnabled" (p.enableMask &&& 0x1 != 0)]

def decodeCmdSystemGetP2pCapsMatrix : Decoding (Option Report) :=
  knownParams Nv0000CtrlSystemGetP2PCapsMatrixParams paramsAddr paramsSize fun p => do
    let grpACount := min p.grpACount.toNat p.gpuIdGrpA.toList.length
    let grpBCount := min p.grpBCount.toNat p.gpuIdGrpB.toList.length
    let gpuIdGrpA ← prefixOf p.gpuIdGrpA.toList grpACount
    let gpuIdGrpB ← prefixOf p.gpuIdGrpB.toList grpBCount
    let p2pCaps ← jsonU32Matrix p.p2pCaps grpACount grpBCount
    let a2bOptimalReadCes ← jsonU32Matrix p.a2bOptimalReadCes grpACount grpBCount
    let a2bOptimalWriteCes ← jsonU32Matrix p.a2bOptimalWriteCes grpACount grpBCount
    let b2aOptimalReadCes ← jsonU32Matrix p.b2aOptimalReadCes grpACount grpBCount
    let b2aOptimalWriteCes ← jsonU32Matrix p.b2aOptimalWriteCes grpACount grpBCount
    return .ok
        [.u64 "grpACount" (zext p.grpACount), .u64 "grpBCount" (zext p.grpBCount),
         .raw "gpuIdGrpA" (jsonU32Array gpuIdGrpA), .raw "gpuIdGrpB" (jsonU32Array gpuIdGrpB),
         .raw "p2pCaps" p2pCaps, .raw "a2bOptimalReadCes" a2bOptimalReadCes,
         .raw "a2bOptimalWriteCes" a2bOptimalWriteCes, .raw "b2aOptimalReadCes" b2aOptimalReadCes,
         .raw "b2aOptimalWriteCes" b2aOptimalWriteCes,
         .bool "truncated" (grpACount < p.grpACount.toNat || grpBCount < p.grpBCount.toNat)]

def decodeCmdClientSetInheritedSharePolicy : Decoding (Option Report) :=
  knownParams Nv0000CtrlClientSetInheritedSharePolicyParams paramsAddr paramsSize fun p =>
    pure <| .ok [.raw "sharePolicy" (jsonSharePolicy p.sharePolicy)]

def decodeCmdSystemGetFeatures : Decoding (Option Report) :=
  knownParams Nv0000CtrlSystemGetFeaturesParams paramsAddr paramsSize fun p => pure <| .ok
    [.str "featuresMask" (hex p.featuresMask), .bool "featureSli" (p.featuresMask &&& 0x1 != 0),
     .bool "featureUuidBasedMemSharing" (p.featuresMask &&& (1 <<< 3) != 0),
     .bool "featureRmTestOnlyCode" (p.featuresMask &&& (1 <<< 4) != 0)]

def decodeCmdGpuGetAttachedIds : Decoding (Option Report) :=
  knownParams Nv0000CtrlGpuGetAttachedIdsParams paramsAddr paramsSize fun p =>
    let ids := validGpuIds p.gpuIds.toList
    pure <| .ok [.u64 "validCount" (usizeAsU64 ids.length), .raw "gpuIds" (jsonU32Array ids)]

def decodeCmdGpuGetIdInfo : Decoding (Option Report) :=
  knownParams Nv0000CtrlGpuGetIdInfoParams paramsAddr paramsSize fun p => do
    -- `readRemoteString` does not read from a null pointer either
    let name ← readRemoteString p.szName 128 128
    return Report.mk
        ([.u64 "gpuId" (zext p.gpuId), .str "gpuFlags" (hex p.gpuFlags),
          .u64 "deviceInstance" (zext p.deviceInstance),
          .u64 "subDeviceInstance" (zext p.subDeviceInstance), .str "szNamePtr" (hex p.szName),
          .u64 "sliStatus" (zext p.sliStatus), .u64 "boardId" (zext p.boardId),
          .u64 "gpuInstance" (zext p.gpuInstance), .i64 "numaId" (sext p.numaId)] ++
          (name.map fun n => Field.str "name" n).toList)
        "ok" (by cases name <;> simp)

def decodeCmdGpuGetIdInfoV2 : Decoding (Option Report) :=
  knownParams Nv0000CtrlGpuGetIdInfoV2Params paramsAddr paramsSize fun p => pure <| .ok
    [.u64 "gpuId" (zext p.gpuId), .str "gpuFlags" (hex p.gpuFlags),
     .u64 "deviceInstance" (zext p.deviceInstance),
     .u64 "subDeviceInstance" (zext p.subDeviceInstance), .u64 "sliStatus" (zext p.sliStatus),
     .u64 "boardId" (zext p.boardId), .u64 "gpuInstance" (zext p.gpuInstance),
     .i64 "numaId" (sext p.numaId)]

def decodeCmdGpuGetProbedIds : Decoding (Option Report) :=
  knownParams Nv0000CtrlGpuGetProbedIdsParams paramsAddr paramsSize fun p => do
    let gpuIds := validGpuIds p.gpuIds.toList
    let excludedIds := validGpuIds p.excludedGpuIds.toList
    let gpuFlags ← prefixOf p.gpuFlags.toList gpuIds.length
    return .ok
        [.u64 "gpuCount" (usizeAsU64 gpuIds.length),
         .u64 "excludedCount" (usizeAsU64 excludedIds.length),
         .raw "gpuIds" (jsonU32Array gpuIds), .raw "excludedGpuIds" (jsonU32Array excludedIds),
         .raw "gpuFlags" (jsonU32HexArray gpuFlags)]

def decodeCmdGpuAttachIds : Decoding (Option Report) :=
  knownParams Nv0000CtrlGpuAttachIdsParams paramsAddr paramsSize fun p =>
    let ids := validGpuIds p.gpuIds.toList
    pure <| .ok
      [.u64 "gpuCount" (usizeAsU64 ids.length), .raw "gpuIds" (jsonU32Array ids),
       .u64 "failedId" (zext p.failedId)]

def decodeCmdGpuGetActiveDeviceIds : Decoding (Option Report) :=
  knownParams Nv0000CtrlGpuGetActiveDeviceIdsParams paramsAddr paramsSize fun p => do
    let (shown, truncated) ← clamped p.devices p.numDevices
    return .ok
        [.u64 "numDevices" (zext p.numDevices), .raw "devices" (jsonActiveDeviceArray shown),
         .bool "truncated" truncated]

def decodeCmdSyncGpuBoostGroupInfo : Decoding (Option Report) :=
  knownParams Nv0000SyncGpuBoostGroupInfoParams paramsAddr paramsSize fun p => do
    let (shown, truncated) ← clamped p.boostGroups p.groupCount
    let groups ← jsonSyncGpuBoostGroupArray shown
    return .ok
        [.u64 "groupCount" (zext p.groupCount), .raw "groups" groups, .bool "truncated" truncated]

def decodeCmdHostGetCapsV2 : Decoding (Option Report) :=
  knownParams Nv0080CtrlHostGetCapsV2Params paramsAddr paramsSize fun p => pure <| .ok
    [.raw "capsTbl" (jsonU8Array p.capsTbl.toList)]

def decodeCmdGpuGetNumSubdevices : Decoding (Option Report) :=
  knownParams Nv0080CtrlGpuGetNumSubdevicesParams paramsAddr paramsSize fun p => pure <| .ok
    [.u64 "numSubDevices" (zext p.numSubDevices)]

def decodeCmdGpuGetClasslistV2 : Decoding (Option Report) :=
  knownParams Nv0080CtrlGpuGetClasslistV2Params paramsAddr paramsSize fun p => do
    let (shown, truncated) ← clamped p.classList p.numClasses
    return .ok
        [.u64 "numClasses" (zext p.numClasses), .raw "classList" (jsonU32HexArray shown),
         .bool "truncated" truncated]

def decodeCmdGpuGetVirtualizationMode : Decoding (Option Report) :=
  knownParams Nv0080CtrlGpuGetVirtualizationModeParams paramsAddr paramsSize fun p => pure <| .ok
    [.u64 "virtualizationMode" (zext p.virtualizationMode),
     .str "virtualizationModeName" (virtualizationModeName p.virtualizationMode),
     .bool "isGridBuild" (p.isGridBuild != 0)]

def decodeCmdFifoGetChannellist : Decoding (Option Report) :=
  knownParams Nv0080CtrlFifoGetChannellistParams paramsAddr paramsSize fun p => do
    let count := min p.numChannels.toNat maxCtrlListItems
    let handles ← readList p.pChannelHandleList count 4
    let channels ← readList p.pChannelList count 4
    return Report.mk
        ([.u64 "numChannels" (zext p.numChannels),
          .str "pChannelHandleList" (hex p.pChannelHandleList),
          .str "pChannelList" (hex p.pChannelList)] ++
          nonEmpty "channelHandleList" handles ++ nonEmpty "channelIdList" channels ++
          [.bool "truncated" (count < p.numChannels.toNat)])
        "ok" (by unfold nonEmpty; split <;> split <;> simp)

def decodeCmdPerfCudaLimitSetControl : Decoding (Option Report) :=
  knownParams Nv0080CtrlPerfCudaLimitControlParams paramsAddr paramsSize fun p => pure <| .ok
    [.bool "cudaLimit" (p.bCudaLimit != 0)]

def decodeCmdFbGetCapsV2 : Decoding (Option Report) :=
  knownParams Nv0080CtrlFbGetCapsV2Params paramsAddr paramsSize fun p => pure <| .ok
    [.raw "capsTbl" (jsonU8HexArray p.capsTbl.toList)]

def decodeCmdClassEngineId : Decoding (Option Report) :=
  knownParams Nv906fCtrlGetClassEngineIdParams paramsAddr paramsSize fun p => pure <| .ok
    [.str "hObject" (hex p.hObject), .u64 "classEngineId" (zext p.classEngineId),
     .str "classId" (hex p.classId), .str "engineId" (hex p.engineId)]

def decodeCmdGpfifoGetWorkSubmitToken : Decoding (Option Report) :=
  knownParams Nvc36fCtrlCmdGpfifoGetWorkSubmitTokenParams paramsAddr paramsSize fun p => pure <| .ok
    [.u64 "workSubmitToken" (zext p.workSubmitToken)]

def decodeCmdMcGetArchInfo : Decoding (Option Report) :=
  knownParams Nv2080CtrlMcGetArchInfoParams paramsAddr paramsSize fun p => pure <| .ok
    [.str "architecture" (hex p.architecture), .str "implementation" (hex p.implementation),
     .str "revision" (hex p.revision), .u64 "subRevision" (zext p.subRevision)]

def decodeCmdGpuGetInfoV2 : Decoding (Option Report) :=
  knownParams Nv2080CtrlGpuGetInfoV2Params paramsAddr paramsSize fun p => do
    let (shown, truncated) ← clamped p.gpuInfoList p.gpuInfoListSize
    return .ok
        [.u64 "gpuInfoListSize" (zext p.gpuInfoListSize),
         .raw "gpuInfoList" (jsonXxxInfoArray shown),
         .bool "truncated" truncated]

def decodeCmdGpuGetNameString : Decoding (Option Report) :=
  knownParams Nv2080CtrlGpuGetNameStringParams paramsAddr paramsSize fun p => do
    let utf16 := p.gpuNameStringFlags &&& 0x1 != 0
    let name ←
      if utf16 then pure (readUtf16leCString p.gpuNameString.toList)
      else do readCString (← prefixOf p.gpuNameString.toList nv2080GpuMaxNameStringLength)
    return .ok
        [.str "gpuNameStringFlags" (hex p.gpuNameStringFlags), .str "name" name,
         .str "encoding" (if utf16 then "UTF16" else "ASCII")]

def decodeCmdGpuGetShortNameString : Decoding (Option Report) :=
  knownParams Nv2080CtrlGpuGetShortNameStringParams paramsAddr paramsSize fun p => do
    let name ← readCString p.gpuShortNameString.toList
    return .ok [.str "name" name]

def decodeCmdGpuGetSimulationInfo : Decoding (Option Report) :=
  knownParams Nv2080CtrlGpuGetSimulationInfoParams paramsAddr paramsSize fun p => pure <| .ok
    [.u64 "type" (zext p.simType), .str "typeName" (simulationInfoTypeName p.simType)]

def decodeCmdGpuGetEnginesV2 : Decoding (Option Report) :=
  knownParams Nv2080CtrlGpuGetEnginesV2Params paramsAddr paramsSize fun p => do
    let (shown, truncated) ← clamped p.engineList p.engineCount
    return .ok
        [.u64 "engineCount" (zext p.engineCount), .raw "engineList" (jsonU32HexArray shown),
         .bool "truncated" truncated]

def decodeCmdGpuQueryComputeModeRules : Decoding (Option Report) :=
  knownParams Nv2080CtrlGpuQueryComputeModeRulesParams paramsAddr paramsSize fun p => pure <| .ok
    [.u64 "rules" (zext p.rules), .str "rulesName" (computeModeRulesName p.rules)]

def decodeCmdGpuQueryEccStatus : Decoding (Option Report) :=
  knownParams Nv2080CtrlGpuQueryEccStatusParams paramsAddr paramsSize fun p => do
    let tally ← foldEach EccTally.add EccTally.zero p.units.toList.zipIdx
    return .ok
        [.u64 "unitCount" (usizeAsU64 p.units.toList.length),
         .u64 "enabledUnits" (usizeAsU64 tally.enabledUnits),
         .u64 "supportedUnits" (usizeAsU64 tally.supportedUnits),
         .u64 "scrubCompleteUnits" (usizeAsU64 tally.scrubCompleteUnits),
         .u64 "dbeTotal" tally.dbeTotal, .u64 "sbeTotal" tally.sbeTotal,
         .bool "fatalPoisonError" (p.bFatalPoisonError != 0),
         .u64 "uncorrectableError" (zext p.uncorrectableError), .str "flags" (hex p.flags),
         .raw "grRouteInfo" (jsonGrRouteInfo p.grRouteInfo),
         .raw "unitSample" (jsonEccUnitSampleArray tally.sampled),
         .bool "sampleTruncated" (tally.sampled.length < tally.nonZeroUnits)]

def decodeCmdGpuGetGidInfo : Decoding (Option Report) :=
  knownParams Nv2080CtrlGpuGetGidInfoParams paramsAddr paramsSize fun p => do
    let (data, _) ← clamped p.data p.length
    let gid : Field :=
      if p.flags &&& 0x2 = 0 then .str "gid" (trimNul (fromUtf8Lossy data))
      else .raw "gidBytes" (jsonU8Array data)
    return Report.mk
        [.u64 "index" (zext p.index), .str "flags" (hex p.flags), .u64 "length" (zext p.length),
         gid]
        "ok" (by dsimp only [gid]; split <;> simp)

def decodeCmdFbGetInfoV2 : Decoding (Option Report) :=
  knownParams Nv2080CtrlFbGetInfoV2Params paramsAddr paramsSize fun p => do
    let (shown, truncated) ← clamped p.fbInfoList p.fbInfoListSize
    return .ok
        [.u64 "fbInfoListSize" (zext p.fbInfoListSize), .raw "fbInfoList" (jsonXxxInfoArray shown),
         .bool "truncated" truncated]

def decodeCmdBusGetPciInfo : Decoding (Option Report) :=
  knownParams Nv2080CtrlBusGetPciInfoParams paramsAddr paramsSize fun p => pure <| .ok
    [.str "pciDeviceId" (hex p.pciDeviceId), .str "pciSubSystemId" (hex p.pciSubSystemId),
     .str "pciRevisionId" (hex p.pciRevisionId), .str "pciExtDeviceId" (hex p.pciExtDeviceId)]

def decodeCmdBusGetInfoV2 : Decoding (Option Report) :=
  knownParams Nv2080CtrlBusGetInfoV2Params paramsAddr paramsSize fun p => do
    let (shown, truncated) ← clamped p.busInfoList p.busInfoListSize
    return .ok
        [.u64 "busInfoListSize" (zext p.busInfoListSize),
         .raw "busInfoList" (jsonXxxInfoArray shown),
         .bool "truncated" truncated]

def decodeCmdBusGetPciBarInfo : Decoding (Option Report) :=
  knownParams Nv2080CtrlBusGetPciBarInfoParams paramsAddr paramsSize fun p => do
    let (shown, truncated) ← clamped p.pciBarInfo p.pciBarCount
    return .ok
        [.u64 "pciBarCount" (zext p.pciBarCount), .raw "pciBarInfo" (jsonPciBarInfoArray shown),
         .bool "truncated" truncated]

def decodeCmdBusGetPcieSupportedGpuAtomics : Decoding (Option Report) :=
  knownParams Nv2080CtrlCmdBusGetPcieSupportedGpuAtomicsParams paramsAddr paramsSize fun p =>
    pure <| .ok
      [.u64 "capType" (zext p.capType), .str "dbdf" (hex p.dbdf),
       .raw "atomicOp" (jsonAtomicOpArray p.atomicOp.toList)]

def decodeCmdBusGetC2cInfo : Decoding (Option Report) :=
  knownParams Nv2080CtrlBusGetC2cInfoParams paramsAddr paramsSize fun p => pure <| .ok
    [.bool "isLinkUp" (p.bIsLinkUp != 0), .bool "linkInHighSpeed" (p.bLinkInHs != 0),
     .u64 "nrLinks" (zext p.nrLinks), .u64 "maxNrLinks" (zext p.maxNrLinks),
     .str "linkMask" (hex p.linkMask), .u64 "perLinkBwMBps" (zext p.perLinkBwMbps),
     .u64 "perLinkLaneWidth" (zext p.perLinkLaneWidth), .u64 "remoteType" (zext p.remoteType),
     .str "remoteTypeName" (c2cRemoteTypeName p.remoteType)]

def decodeCmdGrGetInfo : Decoding (Option Report) :=
  knownParams Nv2080CtrlGrGetInfoParams paramsAddr paramsSize fun p => do
    let count := min p.grInfoListSize.toNat maxCtrlListItems
    let entries ← readList p.grInfoList count (Pod.size NvxxxxCtrlXxxInfo)
    return .ok
        [.u64 "grInfoListSize" (zext p.grInfoListSize), .str "grInfoListPtr" (hex p.grInfoList),
         .raw "grInfoList" (jsonXxxInfoArray (xxxInfos entries)),
         .bool "truncated" (count < p.grInfoListSize.toNat),
         .raw "grRouteInfo" (jsonGrRouteInfo p.grRouteInfo)]

def decodeCmdGrGetGlobalSmOrder : Decoding (Option Report) :=
  knownParams Nv2080CtrlGrGetGlobalSmOrderParams paramsAddr paramsSize fun p => do
    let count := min p.numSm.toNat p.globalSmId.toList.length
    let sampled := min count maxCtrlListItems
    let shown ← prefixOf p.globalSmId.toList sampled
    return .ok
        [.u64 "numSm" (zext p.numSm), .u64 "numTpc" (zext p.numTpc),
         .raw "globalSmId" (jsonGlobalSmOrderArray shown),
         .bool "truncated" (sampled < count), .raw "grRouteInfo" (jsonGrRouteInfo p.grRouteInfo)]

def decodeCmdGrGetCapsV2 : Decoding (Option Report) :=
  knownParams Nv0080CtrlGrGetCapsV2Params paramsAddr paramsSize fun p => pure <| .ok
    [.raw "capsTbl" (jsonU8HexArray p.capsTbl.toList),
     .bool "capsPopulated" (p.bCapsPopulated != 0),
     .raw "grRouteInfo" (jsonGrRouteInfo p.grRouteInfo)]

def decodeCmdGrGetGpcMask : Decoding (Option Report) :=
  knownParams Nv2080CtrlGrGetGpcMaskParams paramsAddr paramsSize fun p => pure <| .ok
    [.str "gpcMask" (hex p.gpcMask), .raw "grRouteInfo" (jsonGrRouteInfo p.grRouteInfo)]

def decodeCmdGrGetTpcMask : Decoding (Option Report) :=
  knownParams Nv2080CtrlGrGetTpcMaskParams paramsAddr paramsSize fun p => pure <| .ok
    [.u64 "gpcId" (zext p.gpcId), .str "tpcMask" (hex p.tpcMask),
     .raw "grRouteInfo" (jsonGrRouteInfo p.grRouteInfo)]

def decodeCmdGrSetCtxswPreemptionMode : Decoding (Option Report) :=
  knownParams Nv2080CtrlGrSetCtxswPreemptionModeParams paramsAddr paramsSize fun p => pure <| .ok
    [.str "flags" (hex p.flags), .str "hChannel" (hex p.hChannel),
     .u64 "gfxpPreemptMode" (zext p.gfxpPreemptMode),
     .u64 "cilpPreemptMode" (zext p.cilpPreemptMode),
     .raw "grRouteInfo" (jsonGrRouteInfo p.grRouteInfo)]

def decodeCmdGrGetCtxBufferSize : Decoding (Option Report) :=
  knownParams Nv2080CtrlGrGetCtxBufferSizeParams paramsAddr paramsSize fun p => pure <| .ok
    [.str "hChannel" (hex p.hChannel), .u64 "totalBufferSize" p.totalBufferSize]

def decodeCmdCeGetAllCaps : Decoding (Option Report) :=
  knownParams Nv2080CtrlCeGetAllCapsParams paramsAddr paramsSize fun p => do
    let rows ← forEach (fun (caps, idx) => do
      let shifted ← shiftRight p.present idx
      let present := shifted &&& 1 != 0
      let entry : CeCaps := ⟨idx, caps[0], caps[1], present⟩
      return if present ∨ caps[0] ≠ 0 ∨ caps[1] ≠ 0 then some entry else none)
      p.capsTbl.toList.zipIdx
    let entries := rows.filterMap id
    return .ok
        [.str "presentMask" (hex p.present), .raw "ceCaps" (jsonCeCapsArray entries),
         .u64 "presentCount" (usizeAsU64 (entries.filter CeCaps.present).length)]

def decodeCmdNvlinkGetNvlinkStatus : Decoding (Option Report) :=
  knownParams Nv2080CtrlNvlinkGetNvlinkStatusParamsPrefix paramsAddr paramsSize fun p => do
    let mask ←
      if Pod.size U64 ≤ paramsSize then do
        let enabledNvlpwMaskAddr ← sub (← add paramsAddr paramsSize) (Pod.size U64)
        readPod U64 .params enabledNvlpwMaskAddr
      else pure none
    return Report.mk
        ([.str "enabledLinkMask" (hex p.enabledLinkMask),
          .u64 "enabledLinksLenMasks" (zext p.enabledLinks.lenMasks),
          .str "enabledLinksMask0" (hex p.enabledLinks.masks[0]),
          .bool "sublinkStateInstant" (p.bSublinkStateInst != 0),
          .bool "nvleModeEnabled" (p.bNvleModeEnabled != 0)] ++
          (mask.map fun m => Field.str "enabledNvlpwMask" (hex m)).toList ++
          [.u64 "paramsSize" (usizeAsU64 paramsSize)])
        "ok" (by cases mask <;> simp)

def decodeCmdGspGetFeatures : Decoding (Option Report) :=
  knownParams Nv2080CtrlGspGetFeaturesParams paramsAddr paramsSize fun p => do
    let firmwareVersion ← readCString p.firmwareVersion.toList
    return .ok
        [.str "gspFeatures" (hex p.gspFeatures), .bool "valid" (p.bValid != 0),
         .bool "defaultGspRmGpu" (p.bDefaultGspRmGpu != 0),
         .str "firmwareVersion" firmwareVersion]

def decodeCmdGrmgrGetGrFsInfo : Decoding (Option Report) :=
  knownParams Nv2080CtrlGrmgrGetGrFsInfoParams paramsAddr paramsSize fun p => do
    let count := min p.numQueries.toNat p.queries.toList.length
    let sampled := min count maxCtrlListItems
    let shown ← prefixOf p.queries.toList sampled
    return .ok
        [.u64 "numQueries" (zext p.numQueries), .raw "queries" (jsonGrmgrQueriesArray shown),
         .bool "truncated" (sampled < count)]

def decodeCmdConfComputeGetCapabilities : Decoding (Option Report) :=
  knownParams NvConfComputeCtrlCmdSystemGetCapabilitiesParams paramsAddr paramsSize fun p =>
    pure <| .ok
      [.u64 "cpuCapability" (zext p.cpuCapability), .u64 "gpusCapability" (zext p.gpusCapability),
       .u64 "environment" (zext p.environment), .u64 "ccFeature" (zext p.ccFeature),
       .u64 "devToolsMode" (zext p.devToolsMode), .u64 "multiGpuMode" (zext p.multiGpuMode)]

def decodeCmdGpfifoSchedule : Decoding (Option Report) :=
  knownParams Nva06cCtrlGpfifoScheduleParams paramsAddr paramsSize fun p => pure <| .ok
    [.bool "enable" (p.bEnable != 0), .bool "skipSubmit" (p.bSkipSubmit != 0),
     .bool "skipEnable" (p.bSkipEnable != 0)]

def decodeCmdSetTimeslice : Decoding (Option Report) :=
  knownParams Nva06cCtrlTimesliceParams paramsAddr paramsSize fun p => pure <| .ok
    [.u64 "timesliceUs" p.timesliceUs]

def decodeCmdPreempt : Decoding (Option Report) :=
  knownParams Nva06cCtrlPreemptParams paramsAddr paramsSize fun p => pure <| .ok
    [.bool "wait" (p.bWait != 0), .bool "manualTimeout" (p.bManualTimeout != 0),
     .u64 "timeoutUs" (zext p.timeoutUs)]

def decodeCmdDebugSetExceptionMask : Decoding (Option Report) :=
  knownParams Nv83deCtrlDebugSetExceptionMaskParams paramsAddr paramsSize fun p => pure <| .ok
    [.str "exceptionMask" (hex p.exceptionMask)]

def decodeCmdPerfBoost : Decoding (Option Report) :=
  knownParams Nv2080CtrlPerfBoostParams paramsAddr paramsSize fun p => pure <| .ok
    [.str "flags" (hex p.flags), .u64 "duration" (zext p.duration)]

end

/-- `decode_known_rm_control`. -/
def decodeKnownRmControl (cmd : U32) (paramsAddr paramsSize : ℕ) : Decoding (Option Report) :=
  match cmd.toNat with
  | nv0000CtrlCmdClientGetAddrSpaceType => decodeCmdClientGetAddrSpaceType paramsAddr paramsSize
  | nv0000CtrlCmdOsUnixGetControlFileDescriptor =>
    decodeCmdOsUnixGetControlFileDescriptor paramsAddr paramsSize
  | nv0000CtrlCmdSystemGetBuildVersion => decodeCmdSystemGetBuildVersion paramsAddr paramsSize
  | nv0000CtrlCmdClientSetInheritedSharePolicy =>
    decodeCmdClientSetInheritedSharePolicy paramsAddr paramsSize
  | nv0000CtrlCmdSystemGetFeatures => decodeCmdSystemGetFeatures paramsAddr paramsSize
  | nv0000CtrlCmdSystemGetFabricStatus => decodeCmdSystemGetFabricStatus paramsAddr paramsSize
  | nv0000CtrlCmdSystemGetP2pCapsMatrix => decodeCmdSystemGetP2pCapsMatrix paramsAddr paramsSize
  | nv0000CtrlCmdGpuGetMemopEnable => decodeCmdGpuGetMemopEnable paramsAddr paramsSize
  | nv0000CtrlCmdGpuGetAttachedIds => decodeCmdGpuGetAttachedIds paramsAddr paramsSize
  | nv0000CtrlCmdGpuGetIdInfo => decodeCmdGpuGetIdInfo paramsAddr paramsSize
  | nv0000CtrlCmdGpuGetIdInfoV2 => decodeCmdGpuGetIdInfoV2 paramsAddr paramsSize
  | nv0000CtrlCmdGpuGetProbedIds => decodeCmdGpuGetProbedIds paramsAddr paramsSize
  | nv0000CtrlCmdGpuAttachIds => decodeCmdGpuAttachIds paramsAddr paramsSize
  | nv0000CtrlCmdGpuGetActiveDeviceIds => decodeCmdGpuGetActiveDeviceIds paramsAddr paramsSize
  | nv0000CtrlCmdSyncGpuBoostGroupInfo => decodeCmdSyncGpuBoostGroupInfo paramsAddr paramsSize
  | nv0080CtrlCmdHostGetCapsV2 => decodeCmdHostGetCapsV2 paramsAddr paramsSize
  | nv0080CtrlCmdGpuGetNumSubdevices => decodeCmdGpuGetNumSubdevices paramsAddr paramsSize
  | nv0080CtrlCmdGpuGetClasslistV2 => decodeCmdGpuGetClasslistV2 paramsAddr paramsSize
  | nv0080CtrlCmdGpuGetVirtualizationMode => decodeCmdGpuGetVirtualizationMode paramsAddr paramsSize
  | nv0080CtrlCmdFifoGetChannellist => decodeCmdFifoGetChannellist paramsAddr paramsSize
  | nv0080CtrlCmdPerfCudaLimitSetControl => decodeCmdPerfCudaLimitSetControl paramsAddr paramsSize
  | nv0080CtrlCmdFbGetCapsV2 => decodeCmdFbGetCapsV2 paramsAddr paramsSize
  | nv906fCtrlGetClassEngineid => decodeCmdClassEngineId paramsAddr paramsSize
  | nvc36fCtrlCmdGpfifoGetWorkSubmitToken => decodeCmdGpfifoGetWorkSubmitToken paramsAddr paramsSize
  | nv2080CtrlCmdMcGetArchInfo => decodeCmdMcGetArchInfo paramsAddr paramsSize
  | nv2080CtrlCmdGpuGetInfoV2 => decodeCmdGpuGetInfoV2 paramsAddr paramsSize
  | nv2080CtrlCmdGpuGetNameString => decodeCmdGpuGetNameString paramsAddr paramsSize
  | nv2080CtrlCmdGpuGetShortNameString => decodeCmdGpuGetShortNameString paramsAddr paramsSize
  | nv2080CtrlCmdGpuGetSimulationInfo => decodeCmdGpuGetSimulationInfo paramsAddr paramsSize
  | nv2080CtrlCmdGpuGetEnginesV2 => decodeCmdGpuGetEnginesV2 paramsAddr paramsSize
  | nv2080CtrlCmdGpuQueryEccStatus => decodeCmdGpuQueryEccStatus paramsAddr paramsSize
  | nv2080CtrlCmdGpuQueryComputeModeRules => decodeCmdGpuQueryComputeModeRules paramsAddr paramsSize
  | nv2080CtrlCmdGpuGetGidInfo => decodeCmdGpuGetGidInfo paramsAddr paramsSize
  | nv2080CtrlCmdFbGetInfoV2 => decodeCmdFbGetInfoV2 paramsAddr paramsSize
  | nv2080CtrlCmdBusGetPciInfo => decodeCmdBusGetPciInfo paramsAddr paramsSize
  | nv2080CtrlCmdBusGetInfoV2 => decodeCmdBusGetInfoV2 paramsAddr paramsSize
  | nv2080CtrlCmdBusGetPciBarInfo => decodeCmdBusGetPciBarInfo paramsAddr paramsSize
  | nv2080CtrlCmdBusGetPcieSupportedGpuAtomics =>
    decodeCmdBusGetPcieSupportedGpuAtomics paramsAddr paramsSize
  | nv2080CtrlCmdBusGetC2cInfo => decodeCmdBusGetC2cInfo paramsAddr paramsSize
  | nv2080CtrlCmdGrGetInfo => decodeCmdGrGetInfo paramsAddr paramsSize
  | nv2080CtrlCmdGrGetGlobalSmOrder => decodeCmdGrGetGlobalSmOrder paramsAddr paramsSize
  | nv2080CtrlCmdGrGetCapsV2 => decodeCmdGrGetCapsV2 paramsAddr paramsSize
  | nv2080CtrlCmdGrGetGpcMask => decodeCmdGrGetGpcMask paramsAddr paramsSize
  | nv2080CtrlCmdGrGetTpcMask => decodeCmdGrGetTpcMask paramsAddr paramsSize
  | nv2080CtrlCmdGrSetCtxswPreemptionMode => decodeCmdGrSetCtxswPreemptionMode paramsAddr paramsSize
  | nv2080CtrlCmdGrGetCtxBufferSize => decodeCmdGrGetCtxBufferSize paramsAddr paramsSize
  | nv2080CtrlCmdCeGetAllCaps => decodeCmdCeGetAllCaps paramsAddr paramsSize
  | nv2080CtrlCmdNvlinkGetNvlinkStatus => decodeCmdNvlinkGetNvlinkStatus paramsAddr paramsSize
  | nv2080CtrlCmdGspGetFeatures => decodeCmdGspGetFeatures paramsAddr paramsSize
  | nv2080CtrlCmdGrmgrGetGrFsInfo => decodeCmdGrmgrGetGrFsInfo paramsAddr paramsSize
  | nvConfComputeCtrlCmdSystemGetCapabilities =>
    decodeCmdConfComputeGetCapabilities paramsAddr paramsSize
  | nva06cCtrlCmdGpfifoSchedule => decodeCmdGpfifoSchedule paramsAddr paramsSize
  | nva06cCtrlCmdSetTimeslice => decodeCmdSetTimeslice paramsAddr paramsSize
  | nva06cCtrlCmdPreempt => decodeCmdPreempt paramsAddr paramsSize
  | nv83deCtrlCmdDebugSetExceptionMask => decodeCmdDebugSetExceptionMask paramsAddr paramsSize
  | nv2080CtrlCmdPerfBoost => decodeCmdPerfBoost paramsAddr paramsSize
  | _ => decodeCmdNv2080LegacyGeneric cmd paramsAddr paramsSize

end CudaTrace.Decode.Rm
