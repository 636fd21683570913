import CudaTrace.Decode.Summary

/-!
# Reads stay in their block

The argument of an ioctl has a declared size, and so has the parameter block of a
control command. What a decoder reads from either lies in the block; only the envelope
of a wrapped ioctl and the data of a request on video memory are read past the end.
-/

namespace CudaTrace.Decode
open CudaTrace.Base CudaTrace.Base.Checked
open CudaTrace.Ptrace (U32 U64)

variable {w : World Target}

/-- The bytes of the access are among the `size` bytes from `base` on; addresses are those
of the machine. -/
def InBlock (base size : ℕ) (e : Access) : Prop :=
  ∃ off, off + e.len ≤ size ∧ e.addr = (base + off) % usizeLimit

theorem inBlock_start {via : Via} {base size len : ℕ} (hbase : base < usizeLimit)
    (hlen : len ≤ size) : InBlock base size ⟨via, base, len⟩ := by
  refine ⟨0, by simpa using hlen, ?_⟩
  simp [Nat.mod_eq_of_lt hbase]

/-- The addresses of two offsets into a block differ. -/
theorem off_eq_of_mod {base a b : ℕ} (ha : a < usizeLimit) (hb : b < usizeLimit)
    (h : (base + a) % usizeLimit = (base + b) % usizeLimit) : a = b := by
  unfold usizeLimit at *
  omega

/-! ### Readers -/

theorem only_readPod {T : Type} [Pod T] {P : Access → Prop} {via : Via} {addr : ℕ}
    (h : P ⟨via, addr, Pod.size T⟩) : Only P (readPod T via addr) w :=
  only_ask h

theorem only_readBytes {P : Access → Prop} {via : Via} {addr len : ℕ} (h : P ⟨via, addr, len⟩) :
    Only P (readBytes via addr len) w :=
  only_bind ((silent_allocate len).only P) fun _ _ => only_ask h

theorem silent_readCString (bytes : List UInt8) : Silent (readCString bytes) :=
  silent_bind (silent_prefixOf _ _) fun _ => silent_pure _

theorem silent_hexBytes (bytes : List UInt8) : Silent (hexBytes bytes) :=
  silent_bind (silent_usize _ _ _) fun _ => silent_bind (silent_allocate _) fun _ => silent_pure _

/-- Everything that is read through a pointer is allowed. -/
def AllowsPointers (P : Access → Prop) : Prop := ∀ addr len, P ⟨.pointer, addr, len⟩

theorem only_readRemoteString {P : Access → Prop} (hP : AllowsPointers P) (ptr : U64)
    (length maxBlob : ℕ) : Only P (readRemoteString ptr length maxBlob) w := by
  unfold readRemoteString
  split
  · exact (silent_pure _).only P
  · refine only_bind (only_readBytes (hP _ _)) fun bytes _ => ?_
    cases bytes with
    | none => exact (silent_pure _).only P
    | some bytes =>
      exact (silent_bind (silent_readCString bytes) fun _ => silent_pure _).only P

/-- An access that lies in the block is one of `[base, base + size)`, unless the block runs
over the end of the address space. -/
theorem inBlock_iff {base size : ℕ} {e : Access} (hlen : 0 < e.len)
    (hend : base + size ≤ usizeLimit) :
    InBlock base size e ↔ base ≤ e.addr ∧ e.addr + e.len ≤ base + size := by
  constructor
  · rintro ⟨off, hoff, haddr⟩
    rw [Nat.mod_eq_of_lt (by omega)] at haddr
    omega
  · rintro ⟨hstart, hstop⟩
    refine ⟨e.addr - base, by omega, ?_⟩
    rw [Nat.mod_eq_of_lt (by omega)]
    omega

/-! ### Control commands -/

namespace Rm

/-- What the decoder of a control command may read. -/
def FromParams (paramsAddr paramsSize : ℕ) (e : Access) : Prop :=
  e.via = .pointer ∨ e.via = .params ∧ InBlock paramsAddr paramsSize e

theorem allowsPointers_fromParams (paramsAddr paramsSize : ℕ) :
    AllowsPointers (FromParams paramsAddr paramsSize) :=
  fun _ _ => .inl rfl

variable {paramsAddr paramsSize : ℕ}

theorem only_knownParams {T : Type} [Pod T] (haddr : paramsAddr < usizeLimit)
    {onOk : T → Decoding Report}
    (h : ∀ p, Pod.size T ≤ paramsSize → Only (FromParams paramsAddr paramsSize) (onOk p) w) :
    Only (FromParams paramsAddr paramsSize) (knownParams T paramsAddr paramsSize onOk) w := by
  simp only [knownParams]
  split
  · exact (silent_pure _).only _
  · rename_i hsize
    have hle : Pod.size T ≤ paramsSize := by omega
    refine only_bind (only_readPod (.inr ⟨rfl, inBlock_start haddr hle⟩)) fun o _ => ?_
    cases o with
    | none => exact (silent_pure _).only _
    | some p => exact only_bind (h p hle) fun _ _ => (silent_pure _).only _

theorem only_readList {P : Access → Prop} (hP : AllowsPointers P) (ptr : U64) (count size : ℕ) :
    Only P (readList ptr count size) w := by
  unfold readList
  split
  · exact (silent_pure _).only P
  · refine only_bind ((silent_usize _ _ _).only P) fun len _ => ?_
    refine only_bind (only_readBytes (hP _ _)) fun bytes _ => ?_
    cases bytes with
    | none => exact (silent_pure _).only P
    | some bytes => exact (silent_pure _).only P

theorem silent_clamped {α : Type} {n : ℕ} (xs : Vector α n) (declared : U32) :
    Silent (clamped xs declared) :=
  silent_bind (silent_prefixOf _ _) fun _ => silent_pure _

theorem silent_jsonU32Matrix {r c : ℕ} (values : Vector (Vector U32 c) r) (rows cols : ℕ) :
    Silent (jsonU32Matrix values rows cols) :=
  silent_bind (silent_forEach (fun _ => silent_bind (silent_index _ _) fun _ =>
    silent_bind (silent_forEach (fun _ => silent_index _ _) _) fun _ => silent_pure _) _)
    fun _ => silent_pure _

theorem silent_jsonSyncGpuBoostGroupArray (values : List Nv0000SyncGpuBoostGroupConfig) :
    Silent (jsonSyncGpuBoostGroupArray values) :=
  silent_bind (silent_forEach (fun _ => silent_bind (silent_prefixOf _ _) fun _ => silent_pure _) _)
    fun _ => silent_pure _

theorem silent_countIf (counter : ℕ) (c : Prop) [Decidable c] :
    Silent (EccTally.countIf counter c) := by
  unfold EccTally.countIf
  split
  · exact silent_usize _ _ _
  · exact silent_pure _

theorem silent_eccTally_add (t : EccTally) (entry : Nv2080CtrlGpuQueryEccUnitStatus × ℕ) :
    Silent (t.add entry) :=
  silent_bind (silent_countIf _ _) fun _ => silent_bind (silent_countIf _ _) fun _ =>
    silent_bind (silent_countIf _ _) fun _ => silent_bind (silent_countIf _ _) fun _ =>
    silent_pure _

/-- The word is the last one of the block. -/
theorem only_decodeCmdNvlinkGetNvlinkStatus (haddr : paramsAddr < usizeLimit)
    (hsize : paramsSize < 2 ^ 32) :
    Only (FromParams paramsAddr paramsSize)
      (decodeCmdNvlinkGetNvlinkStatus paramsAddr paramsSize) w := by
  have hword : Pod.size U64 = 8 := by decide
  refine only_knownParams haddr fun p _ => ?_
  dsimp only
  split
  · rename_i hlarge
    refine only_bind ((silent_usize _ _ _).only _) fun sum hsum => ?_
    refine only_bind ((silent_usize _ _ _).only _) fun addr hsub => ?_
    refine only_bind (only_readPod (.inr ⟨rfl, paramsSize - 8, ?_, ?_⟩))
      fun _ _ => (silent_pure _).only _
    · show paramsSize - 8 + Pod.size U64 ≤ paramsSize
      omega
    · have hadd := ok_add hsum
      have hrange : sum < usizeLimit := by
        rw [hadd]
        exact Nat.mod_lt _ (by decide)
      have hval := ok_sub hrange hsub
      show addr = _
      rw [hval, hword]
      unfold usizeLimit at *
      omega
  · exact (silent_bind (silent_pure _) fun _ => silent_pure _).only _

theorem only_decodeCmdGpuGetNameString (haddr : paramsAddr < usizeLimit) :
    Only (FromParams paramsAddr paramsSize)
      (decodeCmdGpuGetNameString paramsAddr paramsSize) w := by
  refine only_knownParams haddr fun p _ => ?_
  dsimp only
  split
  · exact (silent_pure _).only _
  · exact (silent_bind (silent_prefixOf _ _) fun _ =>
      silent_bind (silent_readCString _) fun _ => silent_pure _).only _

theorem only_decodeCmdNv2080LegacyGeneric (haddr : paramsAddr < usizeLimit) (cmd : U32) :
    Only (FromParams paramsAddr paramsSize)
      (decodeCmdNv2080LegacyGeneric cmd paramsAddr paramsSize) w := by
  simp only [decodeCmdNv2080LegacyGeneric]
  split
  · exact (silent_pure _).only _
  · cases nv2080InterfaceName ((cmd >>> 8).setWidth 8) with
    | none => exact (silent_pure _).only _
    | some interfaceName =>
      dsimp only
      split_ifs
      · exact (silent_pure _).only _
      · exact (silent_pure _).only _
      · refine only_bind (only_readBytes (.inr ⟨rfl, inBlock_start haddr (Nat.min_le_left _ _)⟩))
          fun bytes _ => ?_
        cases bytes with
        | none => exact (silent_pure _).only _
        | some bytes => exact (silent_pure _).only _

theorem only_decodeKnownRmControl (haddr : paramsAddr < usizeLimit) (hsize : paramsSize < 2 ^ 32)
    (cmd : U32) :
    Only (FromParams paramsAddr paramsSize) (decodeKnownRmControl cmd paramsAddr paramsSize) w := by
  have hP := allowsPointers_fromParams paramsAddr paramsSize
  unfold decodeKnownRmControl
  split
  all_goals first
    | exact only_decodeCmdNvlinkGetNvlinkStatus haddr hsize
    | exact only_decodeCmdGpuGetNameString haddr
    | exact only_decodeCmdNv2080LegacyGeneric haddr cmd
    | apply only_knownParams haddr
      intro p _
  all_goals first
    | exact (silent_pure _).only _
    | exact (silent_bind (silent_clamped _ _) fun (_, _) => silent_pure _).only _
    | exact (silent_bind (silent_prefixOf _ _) fun _ => silent_pure _).only _
    | exact (silent_bind (silent_readCString _) fun _ => silent_pure _).only _
    | exact only_bind (only_readRemoteString hP _ _ _) fun _ _ => (silent_pure _).only _
    | exact only_bind (only_readList hP _ _ _) fun _ _ => (silent_pure _).only _
    | exact only_bind (only_readList hP _ _ _) fun _ _ =>
        only_bind (only_readList hP _ _ _) fun _ _ => (silent_pure _).only _
    | exact (silent_bind (silent_foldEach silent_eccTally_add _ _) fun _ => silent_pure _).only _
    | exact (silent_bind (silent_clamped _ _) fun (_, _) =>
        silent_bind (silent_jsonSyncGpuBoostGroupArray _) fun _ => silent_pure _).only _
    | exact (silent_bind (silent_forEach (fun _ => silent_bind (silent_shiftRight _ _) fun _ =>
        silent_pure _) _) fun _ => silent_pure _).only _
    | exact (silent_bind (silent_prefixOf _ _) fun _ => silent_bind (silent_prefixOf _ _) fun _ =>
        silent_bind (silent_jsonU32Matrix _ _ _) fun _ =>
        silent_bind (silent_jsonU32Matrix _ _ _) fun _ =>
        silent_bind (silent_jsonU32Matrix _ _ _) fun _ =>
        silent_bind (silent_jsonU32Matrix _ _ _) fun _ =>
        silent_bind (silent_jsonU32Matrix _ _ _) fun _ => silent_pure _).only _

theorem only_decodeNvos54Payload (os54 : NvOs54Parameters) (maxBlob : ℕ) :
    Only (FromParams os54.params.toNat os54.paramsSize.toNat)
      (decodeNvos54Payload os54 maxBlob) w := by
  have haddr : os54.params.toNat < usizeLimit := os54.params.isLt
  simp only [decodeNvos54Payload]
  split
  · exact (silent_pure _).only _
  · refine only_bind (only_decodeKnownRmControl haddr os54.paramsSize.isLt _) fun decoded _ => ?_
    cases decoded with
    | some report => exact (silent_pure _).only _
    | none =>
      refine only_bind ((silent_usize _ _ _).only _) fun limit _ => ?_
      split
      · exact (silent_pure _).only _
      · exact only_bind (only_readBytes (.inr ⟨rfl, inBlock_start haddr (Nat.min_le_left _ _)⟩))
          fun _ _ => (silent_pure _).only _

/-- What the decoder of an escape may read: its argument up to the declared size, and what
is found through a pointer. -/
def FromArgument (argPtr : U64) (m : IoctlMeta) (e : Access) : Prop :=
  e.via = .argument → InBlock argPtr.toNat m.size.toNat e

variable {m : IoctlMeta} {argPtr : U64}

theorem allowsPointers_fromArgument : AllowsPointers (FromArgument argPtr m) := by
  intro addr len hvia
  cases hvia

theorem fromArgument_of_fromParams {params paramsSize : ℕ} {e : Access}
    (h : FromParams params paramsSize e) : FromArgument argPtr m e := by
  intro hvia
  rcases h with h | ⟨h, _⟩
  · rw [hvia] at h
    cases h
  · rw [hvia] at h
    cases h

theorem only_readCheckedPod {T : Type} [Pod T] (hs : 0 < m.size.toNat) :
    Only (FromArgument argPtr m) (readCheckedPod T m argPtr) w := by
  simp only [readCheckedPod]
  split
  · exact (silent_pure _).only _
  · refine only_bind (only_readPod fun _ => inBlock_start argPtr.isLt (by omega)) fun o _ => ?_
    cases o with
    | none => exact (silent_pure _).only _
    | some p => exact (silent_pure _).only _

theorem only_checkedPod {T : Type} [Pod T] (hs : 0 < m.size.toNat) {report : T → Decoding Report}
    (h : ∀ p, Only (FromArgument argPtr m) (report p) w) :
    Only (FromArgument argPtr m) (checkedPod T m argPtr report) w := by
  refine only_bind (only_readCheckedPod hs) fun r _ => ?_
  cases r with
  | error err => exact (silent_pure _).only _
  | ok p => exact h p

theorem only_reportFields {P : Access → Prop} {d : Decoding Report} (h : Only P d w) :
    Only P (reportFields d) w :=
  only_bind h fun _ _ => (silent_pure _).only P

theorem only_decodeRmControl (hs : 0 < m.size.toNat) (maxBlob : ℕ) :
    Only (FromArgument argPtr m) (decodeRmControl m argPtr maxBlob) w :=
  only_checkedPod hs fun os54 =>
    only_bind (only_mono (only_decodeNvos54Payload os54 maxBlob)
      fun _ => fromArgument_of_fromParams) fun _ _ => (silent_pure _).only _

theorem only_decodeXfer (hs : Pod.size NvIoctlXfer ≤ m.size.toNat) (mode : IoctlDecodeMode)
    (maxBlob : ℕ) : Only (FromArgument argPtr m) (decodeXfer argPtr mode maxBlob) w := by
  simp only [decodeXfer]
  refine only_bind (only_readPod fun _ => inBlock_start argPtr.isLt hs) fun o _ => ?_
  cases o with
  | none => exact (silent_pure _).only _
  | some xfer =>
    dsimp only
    split
    · exact (silent_pure _).only _
    · split
      · exact (silent_pure _).only _
      · refine only_bind (only_readPod (allowsPointers_fromArgument _ _)) fun o _ => ?_
        cases o with
        | none => exact (silent_pure _).only _
        | some os54 =>
          exact only_bind (only_mono (only_decodeNvos54Payload os54 maxBlob)
            fun _ => fromArgument_of_fromParams) fun _ _ => (silent_pure _).only _

theorem only_decodeRmAllocMemory (hs : 0 < m.size.toNat) :
    Only (FromArgument argPtr m) (decodeRmAllocMemory m argPtr) w := by
  unfold decodeRmAllocMemory
  split_ifs
  · exact only_checkedPod hs fun _ => (silent_pure _).only _
  · exact only_checkedPod hs fun _ => (silent_pure _).only _
  · exact (silent_pure _).only _

theorem only_decodeAllocBlob {P : Access → Prop} (hP : AllowsPointers P) (paramsPtr : U64)
    (paramsSize maxBlob : ℕ) : Only P (decodeAllocBlob paramsPtr paramsSize maxBlob) w := by
  simp only [decodeAllocBlob]
  split
  · exact (silent_pure _).only P
  · refine only_bind (only_readBytes (hP _ _)) fun bytes _ => ?_
    cases bytes with
    | none => exact (silent_pure _).only P
    | some bytes => exact (silent_bind (silent_hexBytes bytes) fun _ => silent_pure _).only P

theorem only_decodeRmAlloc (hs : 0 < m.size.toNat) (maxBlob : ℕ) :
    Only (FromArgument argPtr m) (decodeRmAlloc m argPtr maxBlob) w := by
  have hP : AllowsPointers (FromArgument argPtr m) := allowsPointers_fromArgument
  unfold decodeRmAlloc
  split_ifs
  · exact only_checkedPod hs fun _ => only_bind (only_decodeAllocBlob hP _ _ _) fun _ _ => (silent_pure _).only _
  · exact only_checkedPod hs fun _ => only_bind (only_decodeAllocBlob hP _ _ _) fun _ _ => (silent_pure _).only _
  · exact (silent_pure _).only _

theorem only_decodeRmMapMemory (hs : 0 < m.size.toNat) :
    Only (FromArgument argPtr m) (decodeRmMapMemory m argPtr) w := by
  unfold decodeRmMapMemory
  split_ifs
  · exact only_checkedPod hs fun _ => (silent_pure _).only _
  · exact (silent_pure _).only _

theorem only_decodeRmAccessRegistry (hs : 0 < m.size.toNat) (maxBlob : ℕ) :
    Only (FromArgument argPtr m) (decodeRmAccessRegistry m argPtr maxBlob) w := by
  have hP : AllowsPointers (FromArgument argPtr m) := allowsPointers_fromArgument
  exact only_checkedPod hs fun _ => only_bind (only_readRemoteString hP _ _ _) fun _ _ =>
    only_bind (only_readRemoteString hP _ _ _) fun _ _ => (silent_pure _).only _

theorem only_decodeRmGetEventData (hs : 0 < m.size.toNat) :
    Only (FromArgument argPtr m) (decodeRmGetEventData m argPtr) w := by
  refine only_checkedPod hs fun p => ?_
  dsimp only
  split
  · exact only_bind (only_readPod (allowsPointers_fromArgument _ _)) fun _ _ =>
      (silent_pure _).only _
  · exact (silent_bind (silent_pure _) fun _ => silent_pure _).only _

/-- The last word of the declared argument. -/
theorem only_decodeRmOpaque : Only (FromArgument argPtr m) (decodeRmOpaque m argPtr) w := by
  have hword : Pod.size U32 = 4 := by decide
  have hdeclared := m.size.isLt
  simp only [decodeRmOpaque]
  split
  · rename_i hlarge
    refine only_bind ((silent_usize _ _ _).only _) fun sum hsum => ?_
    refine only_bind ((silent_usize _ _ _).only _) fun addr hsub => ?_
    refine only_bind (only_readPod fun _ => ⟨m.size.toNat - 4, ?_, ?_⟩)
      fun _ _ => (silent_pure _).only _
    · show m.size.toNat - 4 + Pod.size U32 ≤ m.size.toNat
      omega
    · have hadd := ok_add hsum
      have hrange : sum < usizeLimit := by
        rw [hadd]
        exact Nat.mod_lt _ (by decide)
      have hval := ok_sub hrange hsub
      show addr = _
      rw [hval, hword]
      unfold usizeLimit at *
      omega
  · exact (silent_bind (silent_pure _) fun _ => silent_pure _).only _

theorem only_decodeAttachGpus (maxBlob : ℕ) :
    Only (FromArgument argPtr m) (decodeAttachGpus m argPtr maxBlob) w := by
  simp only [decodeAttachGpus]
  split
  · exact (silent_pure _).only _
  · refine only_bind ((silent_rem _ _).only _) fun r _ => ?_
    split
    · exact (silent_pure _).only _
    · refine only_bind (only_readBytes fun _ => inBlock_start argPtr.isLt (Nat.min_le_left _ _))
        fun bytes _ => ?_
      cases bytes with
      | none => exact (silent_pure _).only _
      | some bytes => exact (silent_bind (silent_div _ _) fun _ => silent_pure _).only _

/-- Entry `idx` starts `idx` entries into the argument. -/
theorem only_readCards {idx remaining : ℕ}
    (h : (idx + remaining) * Pod.size NvIoctlCardInfo ≤ m.size.toNat) :
    Only (FromArgument argPtr m) (readCards argPtr idx remaining) w := by
  have hsize : Pod.size NvIoctlCardInfo = 72 := by decide
  have hdeclared := m.size.isLt
  induction remaining generalizing idx with
  | zero => exact (silent_pure _).only _
  | succ remaining ih =>
    simp only [readCards]
    refine only_bind ((silent_usize _ _ _).only _) fun off hoff => ?_
    refine only_bind ((silent_usize _ _ _).only _) fun addr haddr => ?_
    have hmul := ok_mul hoff
    have hadd := ok_add haddr
    rw [hsize] at h hmul
    refine only_bind (only_readPod fun _ => ⟨idx * 72, ?_, ?_⟩) fun o _ => ?_
    · show idx * 72 + Pod.size NvIoctlCardInfo ≤ m.size.toNat
      omega
    · show addr = _
      rw [hadd, hmul]
      exact Nat.add_mod_mod _ _ _
    · cases o with
      | none => exact (silent_pure _).only _
      | some entry =>
        refine only_bind (ih ?_) fun _ _ => (silent_pure _).only _
        rw [hsize]
        omega

theorem silent_jsonCardInfoArray (values : List NvIoctlCardInfo) :
    Silent (jsonCardInfoArray values) :=
  silent_bind (silent_forEach (fun _ => silent_bind (silent_readCString _) fun _ => silent_pure _) _)
    fun _ => silent_pure _

theorem only_decodeCardInfo (maxBlob : ℕ) :
    Only (FromArgument argPtr m) (decodeCardInfo m argPtr maxBlob) w := by
  simp only [decodeCardInfo]
  split
  · exact (silent_pure _).only _
  · refine only_bind ((silent_div _ _).only _) fun count hcount => ?_
    refine only_bind ((silent_div _ _).only _) fun limit _ => ?_
    have hcards : (0 + min count (max limit 1)) * Pod.size NvIoctlCardInfo ≤ m.size.toNat := by
      have hle : min count (max limit 1) ≤ m.size.toNat / Pod.size NvIoctlCardInfo := by
        rw [← ok_div hcount]
        exact Nat.min_le_left _ _
      calc (0 + min count (max limit 1)) * Pod.size NvIoctlCardInfo
          ≤ m.size.toNat / Pod.size NvIoctlCardInfo * Pod.size NvIoctlCardInfo := by
            rw [Nat.zero_add]
            exact Nat.mul_le_mul_right _ hle
        _ ≤ m.size.toNat := Nat.div_mul_le_self _ _
    refine only_bind (only_readCards hcards) fun decoded _ => ?_
    split
    · exact (silent_pure _).only _
    · exact (silent_bind (silent_jsonCardInfoArray decoded) fun _ => silent_pure _).only _

theorem only_decodeUnknown (maxBlob : ℕ) :
    Only (FromArgument argPtr m) (decodeUnknown m argPtr maxBlob) w := by
  simp only [decodeUnknown]
  split
  · exact (silent_pure _).only _
  · refine only_bind (only_readBytes fun _ => inBlock_start argPtr.isLt (Nat.min_le_left _ _))
      fun bytes _ => ?_
    cases bytes with
    | none => exact (silent_pure _).only _
    | some bytes => exact (silent_bind (silent_hexBytes bytes) fun _ => silent_pure _).only _

/-- The size of the data of the functions of `NV_ESC_RM_VID_HEAP_CONTROL` that have any. -/
def vidHeapDataSize (function : U32) : Option ℕ :=
  match function.toNat with
  | 2 => some (Pod.size RmVidHeapAllocSizeData)
  | 3 => some (Pod.size RmVidHeapFreeData)
  | 27 => some (Pod.size RmVidHeapAllocOsDescData)
  | _ => none

/-- The reads that a computation makes in every memory. -/
def Reads {α : Type} (d : Decoding α) (reads : List Access) : Prop := ∀ w, (d w).log = reads

theorem reads_decodeVidHeapData (function : U32) (dataAddr : ℕ) :
    Reads (decodeVidHeapData function dataAddr)
      ((vidHeapDataSize function).map fun n => Access.mk .argument dataAddr n).toList := by
  unfold decodeVidHeapData vidHeapDataSize
  generalize function.toNat = n
  split
  · exact fun _ => rfl
  · exact fun _ => rfl
  · exact fun _ => rfl
  · first
      | exact fun _ => rfl
      | (split <;> first | contradiction | exact fun _ => rfl)

/-- The data of the function of a request on video memory runs past the declared end. -/
def VidHeapPastEnd (w : World Target) (m : IoctlMeta) (argPtr : U64) : Prop :=
  Pod.size RmVidHeapControlPrefix ≤ m.size.toNat ∧
    (w.overflowChecks = true → argPtr.toNat + Pod.size RmVidHeapControlPrefix < usizeLimit) ∧
    ∃ p, w.state.pod RmVidHeapControlPrefix argPtr.toNat = some p ∧
      ∃ n, vidHeapDataSize p.function = some n ∧
        m.size.toNat < Pod.size RmVidHeapControlPrefix + n

/-- The data is all that a request on video memory reads past the declared end. -/
theorem only_decodeRmVidHeapControl (hs : 0 < m.size.toNat) (h : ¬ VidHeapPastEnd w m argPtr) :
    Only (FromArgument argPtr m) (decodeRmVidHeapControl m argPtr) w := by
  simp only [decodeRmVidHeapControl]
  refine only_bind (only_readCheckedPod hs) fun r hr => ?_
  rcases ok_readCheckedPod hr with ⟨hsize, p, hp, rfl⟩ | ⟨_, err, rfl⟩
  · refine only_bind ((silent_usize _ _ _).only _) fun dataAddr hadd => ?_
    refine only_bind ?_ fun _ _ => (silent_pure _).only _
    intro e he
    rw [reads_decodeVidHeapData, Option.mem_toList, Option.map_eq_some_iff] at he
    obtain ⟨n, hn, rfl⟩ := he
    intro _
    refine ⟨Pod.size RmVidHeapControlPrefix, ?_, ok_add hadd⟩
    by_contra hpast
    refine h ⟨by omega, ?_, p, hp, n, hn, by simpa using hpast⟩
    intro hchecks
    by_contra hrange
    simp [add, usize, hrange, hchecks] at hadd
  · exact (silent_pure _).only _

/-- The data starts where the header ends, so its end is past the declared one. -/
theorem not_only_decodeRmVidHeapControl (h : VidHeapPastEnd w m argPtr) :
    ¬ Only (FromArgument argPtr m) (decodeRmVidHeapControl m argPtr) w := by
  obtain ⟨hlarge, hrange, p, hp, n, hn, hpast⟩ := h
  have hheader : Pod.size RmVidHeapControlPrefix = 40 := by decide
  have hdeclared := m.size.isLt
  have hread : (readCheckedPod RmVidHeapControlPrefix m argPtr w).outcome = .ok (.ok p) := by
    rw [readCheckedPod, if_neg (by omega)]
    simp [readPod, hp]
  have hadd : ((add argPtr.toNat (Pod.size RmVidHeapControlPrefix) : Decoding ℕ) w).outcome =
      .ok ((argPtr.toNat + Pod.size RmVidHeapControlPrefix) % usizeLimit) := by
    unfold add usize
    split_ifs with hlt hchecks
    · rw [Nat.mod_eq_of_lt hlt]
    · exact absurd (hrange hchecks) hlt
    · rfl
  have hdata : Access.mk .argument ((argPtr.toNat + Pod.size RmVidHeapControlPrefix) % usizeLimit) n ∈
      (decodeRmVidHeapControl m argPtr w).log := by
    refine mem_log_bind.mpr (.inr ⟨_, hread, mem_log_bind.mpr (.inr ⟨_, hadd, ?_⟩)⟩)
    refine mem_log_bind.mpr (.inl ?_)
    rw [reads_decodeVidHeapData]
    simp [hn]
  intro honly
  obtain ⟨off, hoff, haddr⟩ := honly _ hdata rfl
  change off + n ≤ m.size.toNat at hoff
  have hsame := off_eq_of_mod (by rw [hheader]; decide) (by unfold usizeLimit; omega) haddr
  omega

theorem not_only_decodeXfer (hs : m.size.toNat < Pod.size NvIoctlXfer) (mode : IoctlDecodeMode)
    (maxBlob : ℕ) : ¬ Only (FromArgument argPtr m) (decodeXfer argPtr mode maxBlob) w := by
  have hread : Access.mk .argument argPtr.toNat (Pod.size NvIoctlXfer) ∈
      (decodeXfer argPtr mode maxBlob w).log :=
    mem_log_bind.mpr (.inl (by simp [readPod]))
  intro honly
  obtain ⟨off, hoff, _⟩ := honly _ hread rfl
  change off + Pod.size NvIoctlXfer ≤ m.size.toNat at hoff
  omega

/-- The bytes that an escape is known to need, where there is such a number. -/
def escapeSize (nr : ℕ) : Option ℕ :=
  match nr with
  | nvEscIoctlXferCmd => some (Pod.size NvIoctlXfer)
  | nvEscRmControl => some (Pod.size NvOs54Parameters)
  | nvEscRmAllocMemory => some (Pod.size NvOs02Parameters)
  | nvEscRmAllocObject => some (Pod.size NvOs05Parameters)
  | nvEscRmAlloc => some (Pod.size NvOs21Parameters)
  | nvEscRmFree => some (Pod.size NvOs00Parameters)
  | nvEscRmMapMemory => some (Pod.size NvIoctlNvos33ParametersWithFd)
  | nvEscRmUnmapMemory => some (Pod.size NvOs34Parameters)
  | nvEscRmI2cAccess => some (Pod.size RmI2cAccessParams)
  | nvEscRmIdleChannels => some (Pod.size RmIdleChannelsParams)
  | nvEscRmVidHeapControl => some (Pod.size RmVidHeapControlPrefix)
  | nvEscRmAccessRegistry => some (Pod.size RmAccessRegistryParams)
  | nvEscRmGetEventData => some (Pod.size RmGetEventDataParams)
  | nvEscRmAllocContextDma2 => some (Pod.size RmAllocContextDma2Params)
  | nvEscRmMapMemoryDma => some (Pod.size RmMapMemoryDmaParams)
  | nvEscRmUnmapMemoryDma => some (Pod.size RmUnmapMemoryDmaParams)
  | nvEscRmBindContextDma => some (Pod.size RmBindContextDmaParams)
  | nvEscRmDupObject => some (Pod.size RmDupObjectParams)
  | nvEscRmUpdateDeviceMappingInfo => some (Pod.size RmUpdateDeviceMappingInfoParams)
  | nvEscRmShare => some (Pod.size RmShareParams)
  | nvEscRmAddVblankCallback => some (Pod.size RmAddVblankCallbackParams)
  | nvEscRegisterFd => some (Pod.size NvIoctlRegisterFd)
  | nvEscAllocOsEvent | nvEscFreeOsEvent => some (Pod.size NvIoctlAllocOsEvent)
  | nvEscStatusCode => some (Pod.size NvIoctlStatusCode)
  | nvEscCheckVersionStr => some (Pod.size NvIoctlRmApiVersion)
  | nvEscQueryDeviceIntr => some (Pod.size NvIoctlQueryDeviceIntr)
  | nvEscSysParams => some (Pod.size NvIoctlSysParams)
  | nvEscWaitOpenComplete => some (Pod.size NvIoctlWaitOpenComplete)
  | nvEscNumaInfo => some (Pod.size NvIoctlNumaInfo)
  | nvEscSetNumaStatus => some (Pod.size NvIoctlSetNumaStatus)
  | nvEscExportToDmabufFd => some (Pod.size NvIoctlExportToDmaBufFdPrefix)
  | nvEscCardInfo => some (Pod.size NvIoctlCardInfo)
  | _ => none

/-- A declared size that is too small is reported, and nothing is read. -/
def ReportsTooSmall (expected : ℕ) (m : IoctlMeta) (d : Decoding (List Field)) : Prop :=
  ∀ w, d w = ⟨.ok (Report.failed (sizeMismatch expected m.size.toNat)).fields, []⟩

theorem readCheckedPod_small {T : Type} [Pod T] (hs : 0 < m.size.toNat)
    (hsmall : m.size.toNat < Pod.size T) :
    readCheckedPod T m argPtr = pure (.error (sizeMismatch (Pod.size T) m.size.toNat)) := by
  rw [readCheckedPod, if_pos ⟨hs, hsmall⟩]

theorem reportsTooSmall_checkedPod {T : Type} [Pod T] (hs : 0 < m.size.toNat)
    (hsmall : m.size.toNat < Pod.size T) (report : T → Decoding Report) :
    ReportsTooSmall (Pod.size T) m (reportFields (checkedPod T m argPtr report)) := by
  intro w
  simp only [checkedPod, readCheckedPod_small hs hsmall]
  rfl

theorem reportsTooSmall_decodeRmAllocMemory (hsmall : m.size.toNat < Pod.size NvOs02Parameters) :
    ReportsTooSmall (Pod.size NvOs02Parameters) m (reportFields (decodeRmAllocMemory m argPtr)) := by
  have hwrapped : Pod.size NvOs02Parameters ≤ Pod.size NvIoctlNvos02ParametersWithFd := by decide
  intro w
  rw [decodeRmAllocMemory, if_neg (by omega), if_neg (by omega)]
  rfl

theorem reportsTooSmall_decodeRmAlloc (hsmall : m.size.toNat < Pod.size NvOs21Parameters)
    (maxBlob : ℕ) :
    ReportsTooSmall (Pod.size NvOs21Parameters) m (reportFields (decodeRmAlloc m argPtr maxBlob)) := by
  have hnewer : Pod.size NvOs21Parameters ≤ Pod.size NvOs64Parameters := by decide
  intro w
  rw [decodeRmAlloc, if_neg (by omega), if_neg (by omega)]
  rfl

theorem reportsTooSmall_decodeRmMapMemory
    (hsmall : m.size.toNat < Pod.size NvIoctlNvos33ParametersWithFd) :
    ReportsTooSmall (Pod.size NvIoctlNvos33ParametersWithFd) m
      (reportFields (decodeRmMapMemory m argPtr)) := by
  intro w
  rw [decodeRmMapMemory, if_neg (by omega)]
  rfl

theorem reportsTooSmall_decodeRmVidHeapControl (hs : 0 < m.size.toNat)
    (hsmall : m.size.toNat < Pod.size RmVidHeapControlPrefix) :
    ReportsTooSmall (Pod.size RmVidHeapControlPrefix) m (decodeRmVidHeapControl m argPtr) := by
  intro w
  rw [decodeRmVidHeapControl, readCheckedPod_small hs hsmall]
  rfl

theorem reportsTooSmall_decodeCardInfo (hsmall : m.size.toNat < Pod.size NvIoctlCardInfo)
    (maxBlob : ℕ) :
    ReportsTooSmall (Pod.size NvIoctlCardInfo) m
      (reportFields (decodeCardInfo m argPtr maxBlob)) := by
  intro w
  simp only [decodeCardInfo]
  rw [if_pos hsmall]
  rfl

theorem reportsTooSmall_decodeEscape (hs : 0 < m.size.toNat) {expected : ℕ}
    (hknown : escapeSize m.nr.toNat = some expected) (hsmall : m.size.toNat < expected)
    (hnr : m.nr.toNat ≠ nvEscIoctlXferCmd) (mode : IoctlDecodeMode) (maxBlob : ℕ) :
    ReportsTooSmall expected m (decodeEscape m argPtr mode maxBlob) := by
  unfold escapeSize at hknown
  split at hknown
  all_goals
    rename_i hcase
    cases hknown
  all_goals
    rw [decodeEscape, hcase]
  all_goals first
    | exact absurd hcase hnr
    | exact reportsTooSmall_decodeRmAllocMemory hsmall
    | exact reportsTooSmall_decodeRmAlloc hsmall maxBlob
    | exact reportsTooSmall_decodeRmMapMemory hsmall
    | exact reportsTooSmall_decodeRmVidHeapControl hs hsmall
    | exact reportsTooSmall_decodeCardInfo hsmall maxBlob
    | exact reportsTooSmall_checkedPod hs hsmall _

theorem only_decodeEscape (hs : 0 < m.size.toNat)
    (hxfer : m.nr.toNat = nvEscIoctlXferCmd → Pod.size NvIoctlXfer ≤ m.size.toNat)
    (hvid : m.nr.toNat = nvEscRmVidHeapControl → ¬ VidHeapPastEnd w m argPtr)
    (mode : IoctlDecodeMode) (maxBlob : ℕ) :
    Only (FromArgument argPtr m) (decodeEscape m argPtr mode maxBlob) w := by
  unfold decodeEscape
  split
  all_goals first
    | exact only_decodeRmVidHeapControl hs (hvid (by assumption))
    | apply only_reportFields
  all_goals first
    | exact only_checkedPod hs fun _ => (silent_pure _).only _
    | exact only_checkedPod hs fun _ =>
        (silent_bind (silent_readCString _) fun _ => silent_pure _).only _
    | exact only_checkedPod hs fun _ =>
        (silent_bind (silent_prefixOf _ _) fun _ => silent_pure _).only _
    | exact only_decodeXfer (hxfer (by assumption)) _ _
    | exact only_decodeRmControl hs _
    | exact only_decodeRmAllocMemory hs
    | exact only_decodeRmAlloc hs _
    | exact only_decodeRmMapMemory hs
    | exact only_decodeRmAccessRegistry hs _
    | exact only_decodeRmGetEventData hs
    | exact only_decodeRmOpaque
    | exact only_decodeAttachGpus _
    | exact only_decodeCardInfo _
    | exact only_decodeUnknown _

/-! ### The resource manager -/

/-- The escape is decoded: the command is one of the driver, and there is an argument. -/
def Decoded (m : IoctlMeta) (argPtr : U64) (mode : IoctlDecodeMode) : Prop :=
  m.iocType = nvIoctlMagic ∧ mode ≠ .header ∧ argPtr ≠ 0

/-- What is read from the argument lies in its declared size, and an argument that is too
small for its escape is reported as such. -/
def KeepsDeclaredSize (m : IoctlMeta) (argPtr : U64) (mode : IoctlDecodeMode) (maxBlob : ℕ)
    (w : World Target) : Prop :=
  Only (FromArgument argPtr m) (decodeNvidiaIoctl m argPtr mode maxBlob) w ∧
    ∀ expected, escapeSize m.nr.toNat = some expected → m.size.toNat < expected →
      Decoded m argPtr mode →
        (decodeNvidiaIoctl m argPtr mode maxBlob w).outcome =
          .ok (some (Report.failed (sizeMismatch expected m.size.toNat)).fields)

/-- The two decoders that read past the declared end: one does not look at the declared size,
the other not at that of what follows its header. -/
def PastDeclaredEnd (w : World Target) (m : IoctlMeta) (argPtr : U64) : Prop :=
  (m.nr.toNat = nvEscIoctlXferCmd ∧ m.size.toNat < Pod.size NvIoctlXfer) ∨
    (m.nr.toNat = nvEscRmVidHeapControl ∧ VidHeapPastEnd w m argPtr)

theorem decodeNvidiaIoctl_decoded {mode : IoctlDecodeMode} (h : Decoded m argPtr mode)
    (maxBlob : ℕ) :
    decodeNvidiaIoctl m argPtr mode maxBlob =
      (do return some (← decodeEscape m argPtr mode maxBlob)) := by
  obtain ⟨hmagic, hheader, hnull⟩ := h
  rw [decodeNvidiaIoctl, if_neg (by simpa using hmagic), if_neg hheader, if_neg hnull]

theorem silent_decodeNvidiaIoctl {mode : IoctlDecodeMode} (h : ¬ Decoded m argPtr mode)
    (maxBlob : ℕ) : Silent (decodeNvidiaIoctl m argPtr mode maxBlob) := by
  unfold decodeNvidiaIoctl
  split_ifs with hmagic hheader hnull
  · exact silent_pure _
  · exact silent_pure _
  · exact silent_pure _
  · exact absurd ⟨by simpa using hmagic, hheader, hnull⟩ h

theorem only_return_iff {P : Access → Prop} {d : Decoding (List Field)} :
    Only P (do return some (← d)) w ↔ Only P d w := by
  constructor
  · intro h e he
    exact h e (mem_log_bind.mpr (.inl he))
  · intro h
    exact only_bind h fun _ _ => (silent_pure _).only P

/-- The decoders of the escapes keep to the declared size of the argument, but for two. -/
theorem keepsDeclaredSize_iff (hs : 0 < m.size.toNat) (mode : IoctlDecodeMode) (maxBlob : ℕ) :
    KeepsDeclaredSize m argPtr mode maxBlob w ↔
      ¬ (Decoded m argPtr mode ∧ PastDeclaredEnd w m argPtr) := by
  by_cases hdec : Decoded m argPtr mode
  · have hrun := decodeNvidiaIoctl_decoded hdec maxBlob
    rw [KeepsDeclaredSize, hrun, only_return_iff]
    constructor
    · rintro ⟨honly, _⟩ ⟨_, hpast⟩
      rcases hpast with ⟨hnr, hsmall⟩ | ⟨hnr, hpast⟩
      · have hxfer : decodeEscape m argPtr mode maxBlob =
            reportFields (decodeXfer argPtr mode maxBlob) := by
          rw [decodeEscape, hnr]
          rfl
        rw [hxfer] at honly
        exact not_only_decodeXfer hsmall mode maxBlob
          fun e he => honly e (mem_log_bind.mpr (.inl he))
      · have hvid : decodeEscape m argPtr mode maxBlob = decodeRmVidHeapControl m argPtr := by
          rw [decodeEscape, hnr]
          rfl
        rw [hvid] at honly
        exact not_only_decodeRmVidHeapControl hpast honly
    · intro hkeeps
      have hxfer : m.nr.toNat = nvEscIoctlXferCmd → Pod.size NvIoctlXfer ≤ m.size.toNat := by
        intro hnr
        by_contra hsmall
        exact hkeeps ⟨hdec, .inl ⟨hnr, by omega⟩⟩
      refine ⟨only_decodeEscape hs hxfer (fun hnr hpast => hkeeps ⟨hdec, .inr ⟨hnr, hpast⟩⟩)
        mode maxBlob, ?_⟩
      intro expected hknown hsmall _
      have hnr : m.nr.toNat ≠ nvEscIoctlXferCmd := by
        intro hnr
        have hle := hxfer hnr
        rw [hnr] at hknown
        cases hknown
        omega
      have hreport : ReportsTooSmall expected m (decodeEscape m argPtr mode maxBlob) :=
        reportsTooSmall_decodeEscape hs hknown hsmall hnr mode maxBlob
      rw [ok_bind]
      exact ⟨_, by rw [hreport w], rfl⟩
  · have hsilent := (silent_decodeNvidiaIoctl hdec maxBlob).only (w := w) (FromArgument argPtr m)
    simp [KeepsDeclaredSize, hsilent, hdec]

/-- `NV_ESC_IOCTL_XFER_CMD` on 8 bytes. -/
def shortXferCmd : U64 := 0xc00846d3

/-- Nothing can be read. -/
def noMemory : World Target := ⟨true, ⟨fun _ => none⟩⟩

theorem keepsDeclaredSize_shortXfer :
    KeepsDeclaredSize (decodeIoctlCmd shortXferCmd) 4096 .full 256 noMemory ↔
      ¬ (Decoded (decodeIoctlCmd shortXferCmd) 4096 .full ∧
        PastDeclaredEnd noMemory (decodeIoctlCmd shortXferCmd) 4096) :=
  keepsDeclaredSize_iff (by decide) .full 256

/-- The envelope of 16 bytes is read from an argument of 8. -/
theorem shortXfer_pastEnd :
    ¬ KeepsDeclaredSize (decodeIoctlCmd shortXferCmd) 4096 .full 256 noMemory := by
  rintro ⟨honly, _⟩
  have hread : Access.mk .argument 4096 16 ∈
      (decodeNvidiaIoctl (decodeIoctlCmd shortXferCmd) 4096 .full 256 noMemory).log :=
    .head _
  obtain ⟨off, hoff, _⟩ := honly _ hread rfl
  change off + 16 ≤ 8 at hoff
  omega

end Rm

end CudaTrace.Decode
