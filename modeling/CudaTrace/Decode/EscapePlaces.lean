import CudaTrace.Decode.ControlPlaces
import CudaTrace.Decode.Rm

/-!
# Where the numbers of an escape stand

The members of a report on an escape of the resource manager, with the offsets that the
declarations of the structures in decode/ioctl_rm.rs and decode/nvidia.rs give them.
-/

namespace CudaTrace.Decode.Rm
open CudaTrace.Base CudaTrace.Base.Checked
open CudaTrace.Ptrace (U32 U64 I32 I64)

/-! ### Parts of an argument -/

def os54Rows : List Row :=
  [.hex 4 "hClient" 0, .hex 4 "hObject" 4, .hex 4 "cmd_raw" 8, .note "cmd_name", .hex 4 "flags" 12,
   .hex 8 "params_ptr" 16, .unsigned 4 "params_size" 24, .signed 4 "rm_status" 28]

/-- The report on the command, whose number, block and size stand in the argument. -/
def innerForm (addr : ℕ) : Form :=
  .behind ⟨addr + 8, 4, false⟩ fun cmd => .behind ⟨addr + 16, 8, false⟩ fun params =>
    .behind ⟨addr + 24, 4, false⟩ fun size => reportForm params (controlRows cmd size)

def xferRows : List Row := [.hex 4 "cmd_raw" 0, .unsigned 4 "size" 4, .hex 8 "ptr" 8]

def nvos02Rows : List Row :=
  [.hex 4 "hRoot" 0, .hex 4 "hObjectParent" 4, .hex 4 "hObjectNew" 8, .hex 4 "hClass" 12,
   .note "hClassName", .hex 4 "flags" 16, .note "flagsPhysicality", .note "flagsLocation",
   .note "flagsCoherency", .note "flagsAlloc", .note "flagsGpuCacheable",
   .note "flagsKernelMapping", .note "flagsMapping", .hex 8 "pMemory" 24, .hex 8 "limit" 32]

def allocBlobRows : List Row :=
  [.note "allocParamsBlobHex", .note "allocParamsTruncated", .note "allocParamsStatus"]

def nvos64Rows : List Row :=
  [.note "api", .hex 4 "hRoot" 0, .hex 4 "hObjectParent" 4, .hex 4 "hObjectNew" 8,
   .hex 4 "hClass" 12, .note "hClassName", .hex 8 "pAllocParms" 16, .hex 8 "pRightsRequested" 24,
   .unsigned 4 "paramsSize" 32, .unsigned 4 "flags" 36, .signed 4 "rmStatus" 40] ++ allocBlobRows

def nvos21Rows : List Row :=
  [.note "api", .hex 4 "hRoot" 0, .hex 4 "hObjectParent" 4, .hex 4 "hObjectNew" 8,
   .hex 4 "hClass" 12, .note "hClassName", .hex 8 "pAllocParms" 16, .unsigned 4 "paramsSize" 24,
   .signed 4 "rmStatus" 28] ++ allocBlobRows

def allocSizeRows : List Row :=
  [.unsigned 4 "owner" 0, .hex 4 "hMemory" 4, .unsigned 4 "type" 8, .hex 4 "flags" 12,
   .hex 4 "attr" 16, .hex 4 "format" 20, .unsigned 4 "comprCovg" 24, .unsigned 4 "zcullCovg" 28,
   .unsigned 4 "partitionStride" 32, .unsigned 4 "width" 36, .unsigned 4 "height" 40,
   .unsigned 8 "size" 48, .unsigned 8 "alignment" 56, .hex 8 "offset" 64, .hex 8 "limit" 72,
   .hex 8 "address" 80, .hex 8 "rangeBegin" 88, .hex 8 "rangeEnd" 96, .hex 4 "attr2" 104,
   .unsigned 4 "ctagOffset" 108, .signed 4 "numaNode" 112]

def freeRows : List Row := [.unsigned 4 "owner" 0, .hex 4 "hMemory" 4, .hex 4 "flags" 8]

def allocOsDescRows : List Row :=
  [.hex 4 "hMemory" 0, .unsigned 4 "type" 4, .hex 4 "flags" 8, .hex 4 "attr" 12, .hex 4 "attr2" 16,
   .hex 8 "descriptor" 24, .hex 8 "limit" 32, .unsigned 4 "descriptorType" 40]

/-- The data of the function follow the header, which ends at 40. -/
def vidHeapRows : List Row :=
  [.hex 4 "hRoot" 0, .hex 4 "hObjectParent" 4, .unsigned 4 "function" 8, .note "functionName",
   .hex 4 "hVASpace" 12, .signed 2 "ivcHeapNumber" 16, .unsigned 8 "total" 24,
   .unsigned 8 "free" 32, .code "rmStatus" 20,
   .given "allocSize" (fun a => recordForm ((a + 40) % 2 ^ 64) allocSizeRows),
   .given "free" (fun a => recordForm ((a + 40) % 2 ^ 64) freeRows),
   .given "allocOsDesc" fun a => recordForm ((a + 40) % 2 ^ 64) allocOsDescRows]

def unixEventRows : List Row :=
  [.hex 4 "hObject" 0, .unsigned 4 "notifyIndex" 4, .unsigned 4 "info32" 8, .unsigned 2 "info16" 12]

def cardRows : List Row :=
  [.counted "index", .note "valid", (Row.unsigned 4 "domain" 0).inside 4,
   (Row.unsigned 1 "bus" 4).inside 4, (Row.unsigned 1 "slot" 5).inside 4,
   (Row.unsigned 1 "function" 6).inside 4, (Row.unsigned 2 "vendorId" 8).inside 4,
   (Row.unsigned 2 "deviceId" 10).inside 4, .note "bdf", .unsigned 4 "gpuId" 16,
   .unsigned 2 "interruptLine" 20, .hex 8 "regAddress" 24, .unsigned 8 "regSize" 32,
   .hex 8 "fbAddress" 40, .unsigned 8 "fbSize" 48, .unsigned 4 "minorNumber" 56, .note "devName"]

/-- What the report on an escape shows of its argument, which is declared with `size` bytes. -/
def escapeRows (nr size : ℕ) : List Row :=
  match nr with
  | nvEscIoctlXferCmd =>
    [.given "xfer" (fun a => recordForm a xferRows),
     .given "os54" (fun a => pointedForm (a + 8) (recordForm · os54Rows)),
     .given "inner" fun a => pointedForm (a + 8) innerForm]
  | nvEscRmControl =>
    [.given "os54" (fun a => recordForm a os54Rows), .given "inner" innerForm]
  | nvEscRmAllocMemory =>
    [.note "api"] ++ nvos02Rows ++ [.signed 4 "fd" 48, .signed 4 "rmStatus" 40]
  | nvEscRmAllocObject =>
    [.note "api", .hex 4 "hRoot" 0, .hex 4 "hObjectParent" 4, .hex 4 "hObjectNew" 8,
     .hex 4 "hClass" 12, .note "hClassName", .signed 4 "rmStatus" 16]
  | nvEscRmAlloc => if Pod.size NvOs64Parameters ≤ size then nvos64Rows else nvos21Rows
  | nvEscRmFree =>
    [.hex 4 "hRoot" 0, .hex 4 "hObjectParent" 4, .hex 4 "hObjectOld" 8, .signed 4 "rmStatus" 12]
  | nvEscRmMapMemory =>
    [.note "api", .hex 4 "hClient" 0, .hex 4 "hDevice" 4, .hex 4 "hMemory" 8, .hex 8 "offset" 16,
     .unsigned 8 "length" 24, .hex 8 "pLinearAddress" 32, .unsigned 4 "flags" 44,
     .given "fd" (fun a => .number ⟨a + 48, 4, true⟩), .code "rmStatus" 40]
  | nvEscRmUnmapMemory =>
    [.hex 4 "hClient" 0, .hex 4 "hDevice" 4, .hex 4 "hMemory" 8, .hex 8 "pLinearAddress" 16,
     .unsigned 4 "flags" 28, .code "rmStatus" 24]
  | nvEscRmI2cAccess =>
    [.hex 4 "hClient" 0, .hex 4 "hDevice" 4, .unsigned 4 "paramSize" 8, .hex 8 "paramStructPtr" 16,
     .code "rmStatus" 24]
  | nvEscRmIdleChannels =>
    [.hex 4 "hClient" 0, .hex 4 "hDevice" 4, .hex 4 "hChannel" 8, .unsigned 4 "numChannels" 12,
     .hex 8 "phClients" 16, .hex 8 "phDevices" 24, .hex 8 "phChannels" 32, .hex 4 "flags" 40,
     .unsigned 4 "timeout" 44, .code "rmStatus" 48]
  | nvEscRmVidHeapControl => vidHeapRows
  | nvEscRmAccessRegistry =>
    [.hex 4 "hClient" 0, .hex 4 "hObject" 4, .unsigned 4 "accessType" 8,
     .unsigned 4 "devNodeLength" 12, .hex 8 "pDevNode" 16, .unsigned 4 "parmStrLength" 24,
     .hex 8 "pParmStr" 32, .unsigned 4 "binaryDataLength" 40, .hex 8 "pBinaryData" 48,
     .unsigned 4 "data" 56, .unsigned 4 "entry" 60, .code "rmStatus" 64, .note "devNode",
     .note "parmStr"]
  | nvEscRmGetEventData =>
    [.hex 8 "pEvent" 0, .unsigned 4 "moreEvents" 8, .code "rmStatus" 12,
     .given "event" fun a => pointedForm a (recordForm · unixEventRows)]
  | nvEscRmAllocContextDma2 =>
    [.hex 4 "hObjectParent" 0, .hex 4 "hSubDevice" 4, .hex 4 "hObjectNew" 8, .hex 4 "hClass" 12,
     .hex 4 "flags" 16, .unsigned 4 "selector" 20, .hex 4 "hMemory" 24, .hex 8 "offset" 32,
     .hex 8 "limit" 40, .code "rmStatus" 48]
  | nvEscRmMapMemoryDma =>
    [.hex 4 "hClient" 0, .hex 4 "hDevice" 4, .hex 4 "hDma" 8, .hex 4 "hMemory" 12,
     .hex 8 "offset" 16, .unsigned 8 "length" 24, .hex 4 "flags" 32, .hex 4 "flags2" 36,
     .unsigned 4 "kindOverride" 40, .hex 8 "dmaOffset" 48, .code "rmStatus" 56]
  | nvEscRmUnmapMemoryDma =>
    [.hex 4 "hClient" 0, .hex 4 "hDevice" 4, .hex 4 "hDma" 8, .hex 4 "hMemory" 12,
     .hex 4 "flags" 16, .hex 8 "dmaOffset" 24, .unsigned 8 "size" 32, .code "rmStatus" 40]
  | nvEscRmBindContextDma =>
    [.hex 4 "hClient" 0, .hex 4 "hChannel" 4, .hex 4 "hCtxDma" 8, .code "rmStatus" 12]
  | nvEscRmDupObject =>
    [.hex 4 "hClient" 0, .hex 4 "hParent" 4, .hex 4 "hObject" 8, .hex 4 "hClientSrc" 12,
     .hex 4 "hObjectSrc" 16, .hex 4 "flags" 20, .code "rmStatus" 24]
  | nvEscRmUpdateDeviceMappingInfo =>
    [.hex 4 "hClient" 0, .hex 4 "hDevice" 4, .hex 4 "hMemory" 8, .hex 8 "pOldCpuAddress" 16,
     .hex 8 "pNewCpuAddress" 24, .code "rmStatus" 32]
  | nvEscRmShare =>
    [.hex 4 "hClient" 0, .hex 4 "hObject" 4,
     .given "sharePolicy" (fun a => recordForm (a + 8) sharePolicyRows), .code "rmStatus" 20]
  | nvEscRmAddVblankCallback =>
    [.hex 4 "hClient" 0, .hex 4 "hDevice" 4, .hex 4 "hVblank" 8, .hex 8 "pProc" 16,
     .unsigned 4 "logicalHead" 24, .hex 8 "pParm1" 32, .hex 8 "pParm2" 40, .note "add",
     .code "rmStatus" 52]
  | nvEscRegisterFd =>
    [.signed 4 "ctl_fd" 0]
  | nvEscAllocOsEvent | nvEscFreeOsEvent =>
    [.hex 4 "hClient" 0, .hex 4 "hDevice" 4, .unsigned 4 "fd" 8, .code "rmStatus" 12]
  | nvEscStatusCode =>
    [.unsigned 4 "domain" 0, .unsigned 1 "bus" 4, .unsigned 1 "slot" 5, .unsigned 4 "statusCode" 8]
  | nvEscCheckVersionStr =>
    [.unsigned 4 "cmd" 0, .unsigned 4 "reply" 4, .note "version"]
  | nvEscQueryDeviceIntr =>
    [.unsigned 4 "intrStatus" 0, .unsigned 4 "rmStatus" 4]
  | nvEscSysParams =>
    [.unsigned 8 "memblock_size" 0]
  | nvEscWaitOpenComplete =>
    [.signed 4 "rc" 0, .unsigned 4 "adapterStatus" 4]
  | nvEscNumaInfo =>
    [.signed 4 "nid" 0, .signed 4 "numaStatus" 4, .unsigned 8 "memblock_size" 8,
     .hex 8 "numa_mem_addr" 16, .unsigned 8 "numa_mem_size" 24, .note "use_auto_online",
     .counted "offlineAddressCount", .given "offlineAddresses" (fun a => numberList (a + 40) 8),
     .note "offlineAddressesTruncated"]
  | nvEscSetNumaStatus =>
    [.signed 4 "numaStatus" 0]
  | nvEscAttachGpusToFd =>
    [.counted "gpu_count", .given "gpu_ids" (fun a => numberList a 4), .note "truncated"]
  | nvEscExportToDmabufFd =>
    [.signed 4 "fd" 0, .hex 4 "hClient" 4, .unsigned 4 "totalObjects" 8,
     .unsigned 4 "numObjects" 12, .unsigned 4 "index" 16, .unsigned 8 "totalSize" 24,
     .unsigned 1 "mappingType" 32, .note "allowMmap"]
  | nvEscCardInfo =>
    [.counted "cardCountDeclared", .counted "cardCountDecoded", .counted "validCount",
     .note "truncated",
     .given "cards" fun a => .list fun i => recordForm ((a + i * 72) % 2 ^ 64) cardRows]
  | _ => []

variable {w : World Target}

/-! ### Reading an argument -/

theorem shows_checkedPod {T : Type} [Pod T] {m : IoctlMeta} {argPtr : U64} {rows : List Row}
    {report : T → Decoding Report} {r : Report}
    (h : (checkedPod T m argPtr report w).outcome = .ok r)
    (hshow : ∀ bs, Holds w.state argPtr.toNat (Pod.size T) bs →
      (report (Pod.ofBytes bs) w).outcome = .ok r →
      Shows w.state (reportForm argPtr.toNat rows) (objectValue r.fields)) :
    Shows w.state (reportForm argPtr.toNat rows) (objectValue r.fields) := by
  obtain ⟨read, hread, h⟩ := ok_bind.mp h
  rcases ok_readCheckedPod hread with ⟨-, p, hp, rfl⟩ | ⟨-, err, rfl⟩
  · obtain ⟨bs, hbs, rfl⟩ := Option.map_eq_some_iff.mp hp
    exact hshow bs (Target.holds hbs) h
  · cases ok_pure.mp h
    exact shows_failed w.state argPtr.toNat rows err

/-- A decoder that reports on the argument alone. -/
theorem shows_argument {T : Type} [Pod T] {m : IoctlMeta} {argPtr : U64} {rows : List Row}
    {members : T → List Field} {nodup : ∀ p, ((members p).map Field.key ++ ["status"]).Nodup}
    {r : Report}
    (h : (checkedPod T m argPtr (fun p => pure (Report.ok (members p) (nodup p))) w).outcome = .ok r)
    (hrows : rows.all (Row.fits (Pod.size T)) = true)
    (hfits : ∀ bs, Fits bs rows (members (Pod.ofBytes bs)))
    (hgiven : ∀ bs, Holds w.state argPtr.toNat (Pod.size T) bs →
      Given w.state argPtr.toNat rows (members (Pod.ofBytes bs))) :
    Shows w.state (reportForm argPtr.toNat rows) (objectValue r.fields) := by
  refine shows_checkedPod h fun bs hbs hr => ?_
  cases ok_pure.mp hr
  exact shows_report hbs hrows (hfits bs) (hgiven bs hbs)

/-! ### Escapes -/

section Escapes
variable {m : IoctlMeta} {argPtr : U64} {maxBlob : ℕ} {r : Report}

/-- What is shown of a control request at `addr`. -/
theorem shows_decodeNvos54Payload {addr : ℕ} {bs : List UInt8} {q : Nvos54Report}
    (hbs : Holds w.state addr (Pod.size NvOs54Parameters) bs)
    (h : (decodeNvos54Payload (Pod.ofBytes bs) maxBlob w).outcome = .ok q) (hok : q.status = "ok") :
    Shows w.state (recordForm addr os54Rows) q.os54.value ∧
      ∀ inner, q.inner = some inner → Shows w.state (innerForm addr) inner.value := by
  have hempty : "params_empty" ≠ "ok" := by decide
  have hunreadable : "params_unreadable" ≠ "ok" := by decide
  have hpartial : "inner_partial" ≠ "ok" := by decide
  simp only [decodeNvos54Payload] at h
  split at h
  · cases ok_pure.mp h
    exact ⟨shows_record hbs rfl rfl trivial, fun inner hinner => by cases hinner⟩
  obtain ⟨o, ho, h⟩ := ok_bind.mp h
  cases o with
  | some decoded =>
    cases ok_pure.mp h
    refine ⟨shows_record hbs rfl rfl trivial, fun inner hinner => ?_⟩
    cases hinner
    have hcmd : Holds w.state (addr + 8) (32 / 8) (bs.drop 8) := hbs.drop (by decide)
    have hparams : Holds w.state (addr + 16) (64 / 8) (bs.drop 16) := hbs.drop (by decide)
    have hsize : Holds w.state (addr + 24) (32 / 8) (bs.drop 24) := hbs.drop (by decide)
    have hlt : (Pod.ofBytes (bs.drop 24) : U32).toNat < 2 ^ 64 :=
      (Pod.ofBytes (bs.drop 24) : U32).isLt.trans (by decide)
    refine .behind (hcmd.unsigned (by decide)) (.behind (hparams.unsigned (by decide)) ?_)
    exact .behind (hsize.unsigned (by decide)) (shows_decodeKnownRmControl hlt ho)
  | none =>
    obtain ⟨words, -, h⟩ := ok_bind.mp h
    split at h
    · cases ok_pure.mp h
      exact absurd hok hempty
    · obtain ⟨bytes, -, h⟩ := ok_bind.mp h
      cases ok_pure.mp h
      cases bytes with
      | none => exact absurd hok hunreadable
      | some bytes => exact absurd hok hpartial

theorem shows_decodeRmControl (h : (decodeRmControl m argPtr maxBlob w).outcome = .ok r)
    (hok : r.status = "ok") :
    Shows w.state (reportForm argPtr.toNat (escapeRows nvEscRmControl m.size.toNat))
      (objectValue r.fields) := by
  refine shows_checkedPod h fun bs hbs hr => ?_
  obtain ⟨q, hq, hr⟩ := ok_bind.mp hr
  cases ok_pure.mp hr
  obtain ⟨hos54, hinner⟩ := shows_decodeNvos54Payload hbs hq hok
  obtain ⟨os54, inner, status⟩ := q
  cases inner with
  | none => exact shows_report hbs rfl rfl ⟨hos54, trivial⟩
  | some inner => exact shows_report hbs rfl rfl ⟨hos54, hinner inner rfl, trivial⟩

theorem shows_decodeXfer {mode : IoctlDecodeMode} {size : ℕ}
    (h : (decodeXfer argPtr mode maxBlob w).outcome = .ok r) (hok : r.status = "ok") :
    Shows w.state (reportForm argPtr.toNat (escapeRows nvEscIoctlXferCmd size))
      (objectValue r.fields) := by
  obtain ⟨o, ho, h⟩ := ok_bind.mp h
  cases o with
  | none =>
    cases ok_pure.mp h
    exact shows_failed w.state argPtr.toNat _ _
  | some xfer =>
    obtain ⟨bs, hbs, rfl⟩ := ok_readPod ho
    have hptr : Holds w.state (argPtr.toNat + 8) 8 (bs.drop 8) := hbs.drop (by decide)
    have hother : "xfer_non_nvos54" ≠ "ok" := by decide
    have hunreadable : "os54_unreadable" ≠ "ok" := by decide
    dsimp only at h
    split at h
    · cases ok_pure.mp h
      exact shows_report hbs rfl rfl ⟨shows_record hbs rfl rfl trivial, trivial⟩
    split at h
    · cases ok_pure.mp h
      exact absurd hok hother
    obtain ⟨o, ho, h⟩ := ok_bind.mp h
    cases o with
    | none =>
      cases ok_pure.mp h
      exact absurd hok hunreadable
    | some os54 =>
      obtain ⟨obs, hobs, rfl⟩ := ok_readPod ho
      obtain ⟨q, hq, h⟩ := ok_bind.mp h
      cases ok_pure.mp h
      obtain ⟨hos54, hinner⟩ := shows_decodeNvos54Payload hobs hq hok
      have hos54 : Shows w.state (pointedForm (argPtr.toNat + 8) (recordForm · os54Rows)) q.os54.value :=
        shows_pointed hptr le_rfl hos54
      obtain ⟨os54, inner, status⟩ := q
      cases inner with
      | none =>
        exact shows_report hbs rfl rfl ⟨shows_record hbs rfl rfl trivial, hos54, trivial⟩
      | some inner =>
        have hinner := shows_pointed hptr le_rfl (hinner inner rfl)
        exact shows_report hbs rfl rfl ⟨shows_record hbs rfl rfl trivial, hos54, hinner, trivial⟩

theorem shows_decodeRmAllocMemory (h : (decodeRmAllocMemory m argPtr w).outcome = .ok r) :
    Shows w.state (reportForm argPtr.toNat (escapeRows nvEscRmAllocMemory m.size.toNat))
      (objectValue r.fields) := by
  unfold decodeRmAllocMemory at h
  split at h
  · exact shows_argument h rfl (fun _ => rfl) fun _ _ => trivial
  split at h
  · refine shows_checkedPod h fun bs hbs hr => ?_
    cases ok_pure.mp hr
    exact shows_fields (shows_part (List.eraseIdx_sublist _ 16) hbs rfl rfl trivial)
  · cases ok_pure.mp h
    exact shows_failed w.state argPtr.toNat _ _

theorem shows_decodeRmAllocObject (h : (decodeRmAllocObject m argPtr w).outcome = .ok r) :
    Shows w.state (reportForm argPtr.toNat (escapeRows nvEscRmAllocObject m.size.toNat))
      (objectValue r.fields) :=
  shows_argument h rfl (fun _ => rfl) fun _ _ => trivial

theorem shows_withBlob {addr size : ℕ} {bs : List UInt8} {rows : List Row} {fields : List Field}
    {blob : AllocBlob} {nodup : ((fields ++ blob.members).map Field.key ++ ["status"]).Nodup}
    (hbs : Holds w.state addr size bs) (hrows : rows.all (Row.fits size) = true)
    (hfits : Fits bs rows fields) (hgiven : Given w.state addr rows fields) :
    Shows w.state (reportForm addr (rows ++ allocBlobRows))
      (objectValue (Report.ok (fields ++ blob.members) nodup).fields) := by
  have hempty : Holds w.state addr 0 [] := Target.holds rfl
  refine shows_fields ?_
  show ShowsMembers w.state _ ((fields ++ blob.members).map _)
  rw [List.map_append (f := fun f : Field => (f.key, f.value))]
  refine .append (shows_part (List.sublist_append_left _ _) hbs hrows hfits hgiven) ?_
  have hsub := List.sublist_append_right rows allocBlobRows
  cases blob with
  | none => exact .nil
  | hex text truncated => exact shows_part hsub hempty rfl rfl trivial
  | unreadable =>
    exact shows_part ((List.drop_sublist 2 allocBlobRows).trans hsub) hempty rfl rfl trivial

theorem shows_decodeRmAlloc (h : (decodeRmAlloc m argPtr maxBlob w).outcome = .ok r) :
    Shows w.state (reportForm argPtr.toNat (escapeRows nvEscRmAlloc m.size.toNat))
      (objectValue r.fields) := by
  unfold decodeRmAlloc at h
  split at h
  · rename_i hlarge
    rw [escapeRows, if_pos hlarge]
    refine shows_checkedPod h fun bs hbs hr => ?_
    obtain ⟨blob, -, hr⟩ := ok_bind.mp hr
    cases ok_pure.mp hr
    exact shows_withBlob hbs rfl rfl trivial
  · rename_i hsmall
    rw [escapeRows, if_neg hsmall]
    split at h
    · refine shows_checkedPod h fun bs hbs hr => ?_
      obtain ⟨blob, -, hr⟩ := ok_bind.mp hr
      cases ok_pure.mp hr
      exact shows_withBlob hbs rfl rfl trivial
    · cases ok_pure.mp h
      exact shows_failed w.state argPtr.toNat _ _

/-- The descriptor of a request to map memory, at its place in the argument. -/
def mapMemoryFd (addr : ℕ) : Cell := ⟨addr + 48, 4, true⟩

theorem toNat_sext_eq {v : I32} (h : 0 ≤ v.toInt) : ((sext v).toNat : ℤ) = v.toInt := by
  have hext : (sext v).toInt = v.toInt := BitVec.toInt_signExtend_of_le (by decide)
  rw [BitVec.toInt_eq_toNat_cond] at hext
  have hlt := (sext v).isLt
  split at hext
  · exact hext
  · omega

theorem shows_decodeRmMapMemory (h : (decodeRmMapMemory m argPtr w).outcome = .ok r)
    (hfd : ∀ fd, (mapMemoryFd argPtr.toNat).value w.state = some fd → 0 ≤ fd) :
    Shows w.state (reportForm argPtr.toNat (escapeRows nvEscRmMapMemory m.size.toNat))
      (objectValue r.fields) := by
  unfold decodeRmMapMemory at h
  split at h
  · refine shows_argument h rfl (fun _ => rfl) fun bs hbs => ⟨?_, trivial⟩
    have hplace : Holds w.state (argPtr.toNat + 48) (32 / 8) (bs.drop 48) := hbs.drop (by decide)
    have hvalue := hplace.signed (by decide)
    refine .decimal ?_
    rw [hvalue, ← toNat_sext_eq (hfd _ hvalue)]
    rfl
  · cases ok_pure.mp h
    exact shows_failed w.state argPtr.toNat _ _

theorem shows_decodeRmShare (h : (decodeRmShare m argPtr w).outcome = .ok r) :
    Shows w.state (reportForm argPtr.toNat (escapeRows nvEscRmShare m.size.toNat))
      (objectValue r.fields) :=
  shows_argument h rfl (fun _ => rfl) fun _ hbs =>
    ⟨shows_sharePolicy (hbs.drop (by decide)) le_rfl, trivial⟩

theorem shows_decodeRmAccessRegistry (h : (decodeRmAccessRegistry m argPtr maxBlob w).outcome = .ok r) :
    Shows w.state (reportForm argPtr.toNat (escapeRows nvEscRmAccessRegistry m.size.toNat))
      (objectValue r.fields) := by
  refine shows_checkedPod h fun bs hbs hr => ?_
  obtain ⟨devNode, -, hr⟩ := ok_bind.mp hr
  obtain ⟨parmStr, -, hr⟩ := ok_bind.mp hr
  cases ok_pure.mp hr
  refine shows_fields ?_
  simp only [Report.ok, List.map_append]
  refine .append (.append ?_ ?_) ?_
  · exact shows_part (List.Sublist.refl _) hbs rfl rfl trivial
  · cases devNode with
    | none => exact .nil
    | some text => exact shows_part (List.drop_sublist 12 _) hbs rfl rfl trivial
  · cases parmStr with
    | none => exact .nil
    | some text => exact shows_part (List.drop_sublist 13 _) hbs rfl rfl trivial

theorem shows_decodeRmGetEventData (h : (decodeRmGetEventData m argPtr w).outcome = .ok r) :
    Shows w.state (reportForm argPtr.toNat (escapeRows nvEscRmGetEventData m.size.toNat))
      (objectValue r.fields) := by
  refine shows_checkedPod h fun bs hbs hr => ?_
  split at hr
  · obtain ⟨event, hevent, hr⟩ := ok_bind.mp hr
    cases ok_pure.mp hr
    cases event with
    | none => exact shows_report hbs rfl rfl trivial
    | some e =>
      obtain ⟨ebs, hebs, rfl⟩ := ok_readPod hevent
      refine shows_report hbs rfl rfl ⟨shows_pointed hbs (by decide) ?_, trivial⟩
      exact shows_record hebs rfl rfl trivial
  · obtain ⟨event, hevent, hr⟩ := ok_bind.mp hr
    cases ok_pure.mp hevent
    cases ok_pure.mp hr
    exact shows_report hbs rfl rfl trivial

theorem shows_decodeNumaInfo (h : (decodeNumaInfo m argPtr w).outcome = .ok r) :
    Shows w.state (reportForm argPtr.toNat (escapeRows nvEscNumaInfo m.size.toNat))
      (objectValue r.fields) := by
  refine shows_checkedPod h fun bs hbs hr => ?_
  obtain ⟨shown, hshown, hr⟩ := ok_bind.mp hr
  cases ok_pure.mp hr
  have hentries := entries_prefixOf 40 hbs (by decide) hshown
  exact shows_report hbs rfl rfl ⟨shows_hexNumbers rfl hentries, trivial⟩

theorem shows_decodeRmApiVersion (h : (decodeRmApiVersion m argPtr w).outcome = .ok r) :
    Shows w.state (reportForm argPtr.toNat (escapeRows nvEscCheckVersionStr m.size.toNat))
      (objectValue r.fields) := by
  refine shows_checkedPod h fun bs hbs hr => ?_
  obtain ⟨version, -, hr⟩ := ok_bind.mp hr
  cases ok_pure.mp hr
  exact shows_report hbs rfl rfl trivial

theorem shows_decodeAttachGpus (h : (decodeAttachGpus m argPtr maxBlob w).outcome = .ok r) :
    Shows w.state (reportForm argPtr.toNat (escapeRows nvEscAttachGpusToFd m.size.toNat))
      (objectValue r.fields) := by
  unfold decodeAttachGpus at h
  dsimp only at h
  split at h
  · cases ok_pure.mp h
    exact shows_failed w.state argPtr.toNat _ _
  obtain ⟨rest, -, h⟩ := ok_bind.mp h
  split at h
  · cases ok_pure.mp h
    exact shows_failed w.state argPtr.toNat _ _
  obtain ⟨o, ho, h⟩ := ok_bind.mp h
  cases o with
  | none =>
    cases ok_pure.mp h
    exact shows_failed w.state argPtr.toNat _ _
  | some bytes =>
    obtain ⟨_, -, ho⟩ := ok_bind.mp ho
    obtain ⟨count, -, h⟩ := ok_bind.mp h
    cases ok_pure.mp h
    have hread : w.state.bytes argPtr.toNat
        (min m.size.toNat (max maxBlob (Pod.size U32))) = some bytes := ok_ask.mp ho
    have hids := entries_words hread
    have hempty : Holds w.state argPtr.toNat 0 [] := Target.holds rfl
    exact shows_report hempty rfl rfl ⟨shows_numbers (w := 32) rfl hids, trivial⟩

/-- The entries that a loop over the cards has read. -/
theorem ok_readCards {idx remaining : ℕ} {cards : List NvIoctlCardInfo}
    (h : (readCards argPtr idx remaining w).outcome = .ok cards) {i : ℕ} {card : NvIoctlCardInfo}
    (hcard : cards[i]? = some card) :
    ∃ bs, Holds w.state ((argPtr.toNat + (idx + i) * 72) % 2 ^ 64) 72 bs ∧ card = Pod.ofBytes bs := by
  induction remaining generalizing idx cards i with
  | zero =>
    cases ok_pure.mp h
    cases hcard
  | succ remaining ih =>
    obtain ⟨product, hproduct, h⟩ := ok_bind.mp h
    obtain ⟨addr, haddr, h⟩ := ok_bind.mp h
    obtain ⟨o, ho, h⟩ := ok_bind.mp h
    cases o with
    | none =>
      cases ok_pure.mp h
      cases hcard
    | some entry =>
      obtain ⟨rest, hrest, h⟩ := ok_bind.mp h
      cases ok_pure.mp h
      cases i with
      | zero =>
        cases hcard
        have hproduct := ok_mul hproduct
        have haddr := ok_add haddr
        have hsize : Pod.size NvIoctlCardInfo = 72 := rfl
        have hplace : addr = (argPtr.toNat + idx * 72) % 2 ^ 64 := by
          rw [haddr, hproduct, hsize, usizeLimit]
          omega
        rw [Nat.add_zero, ← hplace]
        exact ok_readPod ho
      | succ i =>
        have htail := ih hrest hcard
        rwa [Nat.add_right_comm, Nat.add_assoc] at htail

theorem shows_decodeCardInfo (h : (decodeCardInfo m argPtr maxBlob w).outcome = .ok r) :
    Shows w.state (reportForm argPtr.toNat (escapeRows nvEscCardInfo m.size.toNat))
      (objectValue r.fields) := by
  unfold decodeCardInfo at h
  dsimp only at h
  split at h
  · cases ok_pure.mp h
    exact shows_failed w.state argPtr.toNat _ _
  obtain ⟨declared, -, h⟩ := ok_bind.mp h
  obtain ⟨limit, -, h⟩ := ok_bind.mp h
  obtain ⟨cards, hcards, h⟩ := ok_bind.mp h
  split at h
  · cases ok_pure.mp h
    exact shows_failed w.state argPtr.toNat _ _
  obtain ⟨frag, hfrag, h⟩ := ok_bind.mp h
  cases ok_pure.mp h
  obtain ⟨items, hitems, hfrag⟩ := ok_bind.mp hfrag
  cases ok_pure.mp hfrag
  have hempty : Holds w.state argPtr.toNat 0 [] := Target.holds rfl
  refine shows_report hempty rfl rfl ⟨shows_each hitems fun i v item hv hitem => ?_, trivial⟩
  obtain ⟨entry, idx⟩ := v
  rw [List.getElem?_zipIdx, Option.map_eq_some_iff] at hv
  obtain ⟨card, hcard, hpair⟩ := hv
  rw [Prod.mk.injEq] at hpair
  obtain ⟨cbs, hcbs, hentry⟩ := ok_readCards hcards hcard
  rw [Nat.zero_add] at hcbs
  rw [← hpair.1, hentry] at hitem
  obtain ⟨name, -, hitem⟩ := ok_bind.mp hitem
  cases ok_pure.mp hitem
  exact shows_record hcbs rfl rfl trivial

theorem shows_decodeVidHeapData {function : U32} {addr : ℕ} {data : Option Field}
    (h : (decodeVidHeapData function ((addr + 40) % 2 ^ 64) w).outcome = .ok data) :
    ShowsMembers w.state (vidHeapRows.map (Row.form addr))
      (data.toList.map fun f => (f.key, f.value)) := by
  have hempty : Holds w.state addr 0 [] := Target.holds rfl
  unfold decodeVidHeapData at h
  generalize function.toNat = n at h
  split at h
  · obtain ⟨o, ho, h⟩ := ok_bind.mp h
    cases ok_pure.mp h
    cases o with
    | none => exact .nil
    | some p =>
      obtain ⟨bs, hbs, rfl⟩ := ok_readPod ho
      exact shows_part (List.drop_sublist 9 _) hempty rfl rfl
        ⟨shows_record hbs rfl rfl trivial, trivial⟩
  · obtain ⟨o, ho, h⟩ := ok_bind.mp h
    cases ok_pure.mp h
    cases o with
    | none => exact .nil
    | some p =>
      obtain ⟨bs, hbs, rfl⟩ := ok_readPod ho
      exact shows_part (List.drop_sublist 10 _) hempty rfl rfl
        ⟨shows_record hbs rfl rfl trivial, trivial⟩
  · obtain ⟨o, ho, h⟩ := ok_bind.mp h
    cases ok_pure.mp h
    cases o with
    | none => exact .nil
    | some p =>
      obtain ⟨bs, hbs, rfl⟩ := ok_readPod ho
      exact shows_part (List.drop_sublist 11 _) hempty rfl rfl
        ⟨shows_record hbs rfl rfl trivial, trivial⟩
  · cases ok_pure.mp h
    exact .nil

theorem shows_decodeRmVidHeapControl {fields : List Field}
    (h : (decodeRmVidHeapControl m argPtr w).outcome = .ok fields) :
    Shows w.state (reportForm argPtr.toNat (escapeRows nvEscRmVidHeapControl m.size.toNat))
      (objectValue fields) := by
  obtain ⟨read, hread, h⟩ := ok_bind.mp h
  rcases ok_readCheckedPod hread with ⟨-, p, hp, rfl⟩ | ⟨-, err, rfl⟩
  · obtain ⟨bs, hbs, rfl⟩ := Option.map_eq_some_iff.mp hp
    obtain ⟨addr, haddr, h⟩ := ok_bind.mp h
    obtain ⟨data, hdata, h⟩ := ok_bind.mp h
    cases ok_pure.mp h
    rw [ok_add haddr] at hdata
    refine shows_members ?_
    rw [List.map_append]
    exact .append (shows_part (List.Sublist.refl _) (Target.holds hbs) rfl rfl trivial)
      (shows_decodeVidHeapData hdata)
  · cases ok_pure.mp h
    exact shows_failed w.state argPtr.toNat _ err

theorem status_decodeRmOpaque (h : (decodeRmOpaque m argPtr w).outcome = .ok r) :
    r.status ≠ "ok" := by
  have hopaque : "opaque" ≠ "ok" := by decide
  unfold decodeRmOpaque at h
  split at h
  · obtain ⟨stop, -, h⟩ := ok_bind.mp h
    obtain ⟨start, -, h⟩ := ok_bind.mp h
    obtain ⟨status, -, h⟩ := ok_bind.mp h
    cases ok_pure.mp h
    exact hopaque
  · obtain ⟨status, -, h⟩ := ok_bind.mp h
    cases ok_pure.mp h
    exact hopaque

theorem status_decodeUnknown (h : (decodeUnknown m argPtr maxBlob w).outcome = .ok r) :
    r.status ≠ "ok" := by
  have hunknown : "unknown_cmd" ≠ "ok" := by decide
  have hpartial : "partial" ≠ "ok" := by decide
  have hunreadable : "arg_unreadable" ≠ "ok" := by decide
  simp only [decodeUnknown] at h
  split at h
  · cases ok_pure.mp h
    exact hunknown
  obtain ⟨bytes, -, h⟩ := ok_bind.mp h
  cases bytes with
  | none =>
    cases ok_pure.mp h
    exact hunreadable
  | some bytes =>
    obtain ⟨text, -, h⟩ := ok_bind.mp h
    cases ok_pure.mp h
    exact hpartial

theorem shows_reportFields {d : Decoding Report} {fields : List Field} {form : Form}
    (h : (reportFields d w).outcome = .ok fields) (hok : Field.str "status" "ok" ∈ fields)
    (hshow : ∀ r : Report, (d w).outcome = .ok r → r.status = "ok" →
      Shows w.state form (objectValue r.fields)) : Shows w.state form (objectValue fields) := by
  obtain ⟨r, hr, h⟩ := ok_bind.mp h
  cases ok_pure.mp h
  exact hshow r hr (Report.status_eq hok)

/-- A report with status ok shows the argument, where the descriptor of a request to map
memory is not negative. -/
theorem shows_decodeEscape {mode : IoctlDecodeMode} {fields : List Field}
    (h : (decodeEscape m argPtr mode maxBlob w).outcome = .ok fields)
    (hok : Field.str "status" "ok" ∈ fields)
    (hfd : m.nr.toNat = nvEscRmMapMemory →
      ∀ fd, (mapMemoryFd argPtr.toNat).value w.state = some fd → 0 ≤ fd) :
    Shows w.state (reportForm argPtr.toNat (escapeRows m.nr.toNat m.size.toNat))
      (objectValue fields) := by
  unfold decodeEscape at h
  generalize m.nr.toNat = n at h hfd ⊢
  split at h
  · exact shows_reportFields h hok fun r hr hok => shows_decodeXfer hr hok
  · exact shows_reportFields h hok fun r hr hok => shows_decodeRmControl hr hok
  · exact shows_reportFields h hok fun r hr _ => shows_decodeRmAllocMemory hr
  · exact shows_reportFields h hok fun r hr _ => shows_decodeRmAllocObject hr
  · exact shows_reportFields h hok fun r hr _ => shows_decodeRmAlloc hr
  · exact shows_reportFields h hok fun r hr _ =>
      shows_argument hr rfl (fun _ => rfl) fun _ _ => trivial
  · exact shows_reportFields h hok fun r hr _ => shows_decodeRmMapMemory hr (hfd rfl)
  · exact shows_reportFields h hok fun r hr _ =>
      shows_argument hr rfl (fun _ => rfl) fun _ _ => trivial
  · exact shows_reportFields h hok fun r hr _ =>
      shows_argument hr rfl (fun _ => rfl) fun _ _ => trivial
  · exact shows_reportFields h hok fun r hr _ =>
      shows_argument hr rfl (fun _ => rfl) fun _ _ => trivial
  · exact shows_decodeRmVidHeapControl h
  · exact shows_reportFields h hok fun r hr _ => shows_decodeRmAccessRegistry hr
  · exact shows_reportFields h hok fun r hr _ => shows_decodeRmGetEventData hr
  · exact shows_reportFields h hok fun r hr _ =>
      shows_argument hr rfl (fun _ => rfl) fun _ _ => trivial
  · exact shows_reportFields h hok fun r hr _ =>
      shows_argument hr rfl (fun _ => rfl) fun _ _ => trivial
  · exact shows_reportFields h hok fun r hr _ =>
      shows_argument hr rfl (fun _ => rfl) fun _ _ => trivial
  · exact shows_reportFields h hok fun r hr _ =>
      shows_argument hr rfl (fun _ => rfl) fun _ _ => trivial
  · exact shows_reportFields h hok fun r hr _ =>
      shows_argument hr rfl (fun _ => rfl) fun _ _ => trivial
  · exact shows_reportFields h hok fun r hr _ =>
      shows_argument hr rfl (fun _ => rfl) fun _ _ => trivial
  · exact shows_reportFields h hok fun r hr _ => shows_decodeRmShare hr
  · exact shows_reportFields h hok fun r hr _ =>
      shows_argument hr rfl (fun _ => rfl) fun _ _ => trivial
  · exact shows_reportFields h hok fun r hr hok => absurd hok (status_decodeRmOpaque hr)
  · exact shows_reportFields h hok fun r hr hok => absurd hok (status_decodeRmOpaque hr)
  · exact shows_reportFields h hok fun r hr hok => absurd hok (status_decodeRmOpaque hr)
  · exact shows_reportFields h hok fun r hr hok => absurd hok (status_decodeRmOpaque hr)
  · exact shows_reportFields h hok fun r hr hok => absurd hok (status_decodeRmOpaque hr)
  · exact shows_reportFields h hok fun r hr hok => absurd hok (status_decodeRmOpaque hr)
  · exact shows_reportFields h hok fun r hr hok => absurd hok (status_decodeRmOpaque hr)
  · exact shows_reportFields h hok fun r hr _ =>
      shows_argument hr rfl (fun _ => rfl) fun _ _ => trivial
  · exact shows_reportFields h hok fun r hr _ =>
      shows_argument hr rfl (fun _ => rfl) fun _ _ => trivial
  · exact shows_reportFields h hok fun r hr _ =>
      shows_argument hr rfl (fun _ => rfl) fun _ _ => trivial
  · exact shows_reportFields h hok fun r hr _ =>
      shows_argument hr rfl (fun _ => rfl) fun _ _ => trivial
  · exact shows_reportFields h hok fun r hr _ => shows_decodeRmApiVersion hr
  · exact shows_reportFields h hok fun r hr _ =>
      shows_argument hr rfl (fun _ => rfl) fun _ _ => trivial
  · exact shows_reportFields h hok fun r hr _ =>
      shows_argument hr rfl (fun _ => rfl) fun _ _ => trivial
  · exact shows_reportFields h hok fun r hr _ =>
      shows_argument hr rfl (fun _ => rfl) fun _ _ => trivial
  · exact shows_reportFields h hok fun r hr _ => shows_decodeNumaInfo hr
  · exact shows_reportFields h hok fun r hr _ =>
      shows_argument hr rfl (fun _ => rfl) fun _ _ => trivial
  · exact shows_reportFields h hok fun r hr _ => shows_decodeAttachGpus hr
  · exact shows_reportFields h hok fun r hr _ =>
      shows_argument hr rfl (fun _ => rfl) fun _ _ => trivial
  · exact shows_reportFields h hok fun r hr _ => shows_decodeCardInfo hr
  · exact shows_reportFields h hok fun r hr hok => absurd hok (status_decodeUnknown hr)

end Escapes

end CudaTrace.Decode.Rm
