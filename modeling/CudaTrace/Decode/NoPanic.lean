import CudaTrace.Decode.Summary

/-!
# Decoders do not panic

A decoder clamps a count before it takes a slice, and adds to a pointer only after it has
read from it, so that the sum stays in the lower half of the address space. One decoder adds
without having read anything.
-/

namespace CudaTrace.Decode
open CudaTrace.Base CudaTrace.Base.Checked
open CudaTrace.Ptrace (U32 U64)

variable {w : World Target}

/-! ### Reading -/

theorem Target.UserHalf.pod_bound {t : Target} (hu : t.UserHalf) {T : Type} [Pod T] {addr : ℕ}
    {p : T} (hsize : 0 < Pod.size T) (h : t.pod T addr = some p) : addr + Pod.size T ≤ 2 ^ 63 := by
  obtain ⟨bs, hbs, _⟩ := Option.map_eq_some_iff.mp h
  exact hu.bound hsize hbs

@[simp] theorem wp_readPod {T : Type} [Pod T] {via : Via} {addr : ℕ} {Q : Option T → Prop} :
    wp (readPod T via addr) w Q ↔ Q (w.state.pod T addr) := by
  simp [readPod]

@[simp] theorem wp_readBytes {via : Via} {addr len : ℕ} {Q : Option (List UInt8) → Prop} :
    wp (readBytes via addr len) w Q ↔ len < 2 ^ 63 ∧ Q (w.state.bytes addr len) := by
  simp [readBytes]

theorem safe_prefixOf {α : Type} {xs : List α} {n : ℕ} (h : n ≤ xs.length) :
    Safe (prefixOf xs n : Decoding (List α)) w := by
  simpa [Safe] using h

theorem safe_index {α : Type} {xs : List α} {i : ℕ} (h : i < xs.length) :
    Safe (index xs i : Decoding α) w := by
  simp [Safe, wp_index h]

theorem safe_readCString (bytes : List UInt8) : Safe (readCString bytes) w := by
  simp [Safe, readCString, List.findIdx_le_length]

theorem safe_hexBytes {bytes : List UInt8} (h : bytes.length < 2 ^ 62) :
    Safe (hexBytes bytes) w := by
  have hmul : bytes.length * 2 < usizeLimit := by
    unfold usizeLimit
    omega
  simp only [Safe, hexBytes, wp_bind, wp_mul hmul, wp_allocate, wp_pure, and_true]
  omega

theorem safe_readRemoteString {ptr : U64} {length : ℕ} (maxBlob : ℕ) (h : length < 2 ^ 63) :
    Safe (readRemoteString ptr length maxBlob) w := by
  unfold readRemoteString
  split
  · exact safe_pure _
  · simp only [Safe, wp_bind, wp_readBytes]
    constructor
    · omega
    · cases w.state.bytes ptr.toNat (min length (max maxBlob 32)) with
      | none => simp
      | some bytes => exact safe_bind (safe_readCString bytes) fun _ => safe_pure _

/-! ### Frames of the decoders -/

theorem safe_checkedPod {T : Type} [Pod T] {m : IoctlMeta} {argPtr : U64}
    {report : T → Decoding Report}
    (h : ∀ p, w.state.pod T argPtr.toNat = some p → Safe (report p) w) :
    Safe (checkedPod T m argPtr report) w := by
  simp only [checkedPod, readCheckedPod, Safe, wp_bind]
  split
  · simp
  · cases hp : w.state.pod T argPtr.toNat with
    | none => simp [hp]
    | some p => simpa [hp, Safe] using h p hp

theorem Uvm.safe_withParams {T : Type} [Pod T] {argPtr : U64} {onOk : T → Decoding Report}
    (h : ∀ p, Safe (onOk p) w) : Safe (Uvm.withParams T argPtr onOk) w := by
  simp only [Uvm.withParams, Safe, wp_bind, wp_readPod]
  cases w.state.pod T argPtr.toNat with
  | none => simp
  | some p => exact h p

theorem Rm.safe_knownParams {T : Type} [Pod T] {paramsAddr paramsSize : ℕ}
    {onOk : T → Decoding Report}
    (h : ∀ p, w.state.pod T paramsAddr = some p → Safe (onOk p) w) :
    Safe (Rm.knownParams T paramsAddr paramsSize onOk) w := by
  simp only [Rm.knownParams]
  split
  · exact safe_pure _
  · simp only [Safe, wp_bind, wp_readPod]
    cases hp : w.state.pod T paramsAddr with
    | none => simp
    | some p => exact safe_bind (h p hp) fun _ => safe_pure _

/-! ### Unified memory -/

namespace Uvm

/-- The lists of a report are cut to the length of their array. -/
theorem safe_shown {α : Type} {n : ℕ} {xs : Vector α n} {count : U64} {shown : ℕ} {truncated : Bool}
    (h : clampCount count n = (shown, truncated)) :
    Safe (prefixOf xs.toList shown : Decoding (List α)) w := by
  have hle := clampCount_le count n
  rw [h] at hle
  exact safe_prefixOf (by simpa using hle)

theorem safe_decodeUnknown (argPtr : U64) (maxBlob : ℕ) : Safe (decodeUnknown argPtr maxBlob) w := by
  simp only [decodeUnknown, Safe, wp_bind, wp_readBytes]
  constructor
  · omega
  · cases hb : w.state.bytes argPtr.toNat (min (max maxBlob 16) 64) with
    | none => simp
    | some bytes =>
      have hlen := Target.length_bytes hb
      exact safe_bind (safe_hexBytes (by omega)) fun _ => safe_pure _

theorem safe_decodeUvmIoctl (m : IoctlMeta) (argPtr : U64) (mode : IoctlDecodeMode)
    (maxBlob : ℕ) : Safe (decodeUvmIoctl m argPtr mode maxBlob) w := by
  unfold decodeUvmIoctl
  split_ifs
  · exact safe_pure _
  · exact safe_pure _
  · exact safe_pure _
  · split
    all_goals first
      | exact safe_withParams fun _ => safe_pure _
      | exact safe_decodeUnknown _ _
      | apply safe_withParams
        intro p
        split
        rename_i hcount
        exact safe_bind (safe_shown hcount) fun _ => safe_pure _

end Uvm

/-! ### Control commands -/

namespace Rm

theorem safe_jsonU32Matrix {r c : ℕ} (values : Vector (Vector U32 c) r) (rows cols : ℕ) :
    Safe (jsonU32Matrix values rows cols) w := by
  refine safe_bind (safe_forEach fun rowIdx hrow => ?_) fun _ => safe_pure _
  rw [List.mem_range] at hrow
  refine safe_bind (safe_index (by simpa using by omega)) fun row => ?_
  refine safe_bind (safe_forEach fun colIdx hcol => ?_) fun _ => safe_pure _
  rw [List.mem_range] at hcol
  exact safe_index (by simpa using by omega)

theorem safe_clamped {α : Type} {n : ℕ} (xs : Vector α n) (declared : U32) :
    Safe (clamped xs declared) w :=
  safe_bind (safe_prefixOf (by omega)) fun _ => safe_pure _

theorem safe_jsonSyncGpuBoostGroupArray (values : List Nv0000SyncGpuBoostGroupConfig) :
    Safe (jsonSyncGpuBoostGroupArray values) w :=
  safe_bind (safe_forEach fun _ _ => safe_bind (safe_prefixOf (by omega)) fun _ => safe_pure _)
    fun _ => safe_pure _

theorem safe_readList (ptr : U64) {count size : ℕ} (h : count * size < 2 ^ 63) :
    Safe (readList ptr count size) w := by
  unfold readList
  split
  · exact safe_pure _
  · have hmul : count * size < usizeLimit := by
      unfold usizeLimit
      omega
    simp only [Safe, wp_bind, wp_mul hmul, wp_readBytes]
    constructor
    · exact h
    · cases w.state.bytes ptr.toNat (count * size) with
      | none => simp
      | some bytes => simp

/-- None of the counters runs past the number of units. -/
def EccTally.AtMost (t : EccTally) (n : ℕ) : Prop :=
  t.enabledUnits ≤ n ∧ t.supportedUnits ≤ n ∧ t.scrubCompleteUnits ≤ n ∧ t.nonZeroUnits ≤ n

theorem wp_countIf {counter n : ℕ} {c : Prop} [Decidable c] {Q : ℕ → Prop} (hle : counter ≤ n)
    (hn : n + 1 < usizeLimit) (hQ : ∀ k ≤ n + 1, Q k) : wp (EccTally.countIf counter c) w Q := by
  unfold EccTally.countIf
  split
  · rw [wp_add (by omega)]
    exact hQ _ (by omega)
  · rw [wp_pure]
    exact hQ _ (by omega)

theorem wp_eccTally_add {t : EccTally} {n : ℕ} (ht : t.AtMost n) (hn : n + 1 < usizeLimit)
    (entry : Nv2080CtrlGpuQueryEccUnitStatus × ℕ) :
    wp (t.add entry) w fun next => next.AtMost (n + 1) := by
  obtain ⟨henabled, hsupported, hscrub, hnonZero⟩ := ht
  simp only [EccTally.add, wp_bind]
  refine wp_countIf henabled hn fun enabled h1 => ?_
  refine wp_countIf hsupported hn fun supported h2 => ?_
  refine wp_countIf hscrub hn fun scrub h3 => ?_
  refine wp_countIf hnonZero hn fun nonZero h4 => ?_
  rw [wp_pure]
  exact ⟨h1, h2, h3, h4⟩

theorem safe_decodeCmdGpuQueryEccStatus (paramsAddr paramsSize : ℕ) :
    Safe (decodeCmdGpuQueryEccStatus paramsAddr paramsSize) w := by
  refine safe_knownParams fun p _ => ?_
  have hzero : EccTally.zero.AtMost 0 := by simp [EccTally.AtMost, EccTally.zero]
  have hlen : p.units.toList.zipIdx.length = 41 := by simp
  have hrun : wp (foldEach EccTally.add EccTally.zero p.units.toList.zipIdx) w
      fun t => t.AtMost (0 + p.units.toList.zipIdx.length) :=
    wp_foldEach (I := fun n t => EccTally.AtMost t n) hzero fun n t hn ht x _ =>
      wp_eccTally_add ht (by rw [hlen] at hn; unfold usizeLimit; omega) x
  exact safe_bind (Safe.of_wp hrun) fun _ => safe_pure _

theorem safe_decodeCmdCeGetAllCaps (paramsAddr paramsSize : ℕ) :
    Safe (decodeCmdCeGetAllCaps paramsAddr paramsSize) w := by
  refine safe_knownParams fun p _ => ?_
  refine safe_bind (safe_forEach fun entry hentry => ?_) fun _ => safe_pure _
  obtain ⟨caps, idx⟩ := entry
  have hidx := List.snd_lt_of_mem_zipIdx hentry
  simp only [Safe, wp_bind]
  rw [wp_shiftRight (by simpa using hidx)]
  simp

/-- The last word of the block: the prefix has been read, so the sum is in range. -/
theorem safe_decodeCmdNvlinkGetNvlinkStatus (hu : w.state.UserHalf) {paramsAddr paramsSize : ℕ}
    (hsize : paramsSize < 2 ^ 32) :
    Safe (decodeCmdNvlinkGetNvlinkStatus paramsAddr paramsSize) w := by
  refine safe_knownParams fun p hp => ?_
  have hbound := hu.pod_bound (by decide) hp
  have hadd : paramsAddr + paramsSize < usizeLimit := by
    unfold usizeLimit
    omega
  simp only [Safe, wp_bind, wp_ite]
  constructor
  · intro hword
    rw [wp_add hadd, wp_sub (by omega)]
    simp
  · simp

theorem safe_decodeCmdGpuGetNameString (paramsAddr paramsSize : ℕ) :
    Safe (decodeCmdGpuGetNameString paramsAddr paramsSize) w := by
  refine safe_knownParams fun p _ => ?_
  dsimp only
  split
  · exact safe_pure _
  · exact safe_bind (safe_prefixOf (by simp)) fun _ =>
      safe_bind (safe_readCString _) fun _ => safe_pure _

theorem safe_decodeCmdNv2080LegacyGeneric (cmd : U32) (paramsAddr paramsSize : ℕ) :
    Safe (decodeCmdNv2080LegacyGeneric cmd paramsAddr paramsSize) w := by
  simp only [decodeCmdNv2080LegacyGeneric]
  split
  · exact safe_pure _
  · cases nv2080InterfaceName ((cmd >>> 8).setWidth 8) with
    | none => exact safe_pure _
    | some interfaceName =>
      dsimp only
      split_ifs
      · exact safe_pure _
      · exact safe_pure _
      · have hlen : min paramsSize (maxWords * 4) < 2 ^ 63 := by
          unfold maxWords
          omega
        simp only [Safe, wp_bind, wp_readBytes]
        constructor
        · exact hlen
        · cases w.state.bytes paramsAddr (min paramsSize (maxWords * 4)) with
          | none => simp
          | some bytes => simp

theorem validGpuIds_length_le (ids : List U32) : (validGpuIds ids).length ≤ ids.length :=
  (List.takeWhile_sublist _).length_le

theorem safe_decodeCmdGpuGetProbedIds (paramsAddr paramsSize : ℕ) :
    Safe (decodeCmdGpuGetProbedIds paramsAddr paramsSize) w := by
  refine safe_knownParams fun p _ => safe_bind (safe_prefixOf ?_) fun _ => safe_pure _
  have hle := validGpuIds_length_le p.gpuIds.toList
  simpa using hle

theorem safe_decodeCmdSystemGetP2pCapsMatrix (paramsAddr paramsSize : ℕ) :
    Safe (decodeCmdSystemGetP2pCapsMatrix paramsAddr paramsSize) w :=
  safe_knownParams fun _ _ =>
    safe_bind (safe_prefixOf (by omega)) fun _ => safe_bind (safe_prefixOf (by omega)) fun _ =>
      safe_bind (safe_jsonU32Matrix _ _ _) fun _ => safe_bind (safe_jsonU32Matrix _ _ _) fun _ =>
      safe_bind (safe_jsonU32Matrix _ _ _) fun _ => safe_bind (safe_jsonU32Matrix _ _ _) fun _ =>
      safe_bind (safe_jsonU32Matrix _ _ _) fun _ => safe_pure _

theorem safe_decodeCmdSyncGpuBoostGroupInfo (paramsAddr paramsSize : ℕ) :
    Safe (decodeCmdSyncGpuBoostGroupInfo paramsAddr paramsSize) w :=
  safe_knownParams fun _ _ => safe_bind (safe_clamped _ _) fun (_, _) =>
    safe_bind (safe_jsonSyncGpuBoostGroupArray _) fun _ => safe_pure _

/-- A list behind a pointer is cut to a few entries before its size is computed. -/
theorem safe_decodeCmdFifoGetChannellist (paramsAddr paramsSize : ℕ) :
    Safe (decodeCmdFifoGetChannellist paramsAddr paramsSize) w := by
  refine safe_knownParams fun p _ => ?_
  have hlen : min p.numChannels.toNat maxCtrlListItems * 4 < 2 ^ 63 := by
    unfold maxCtrlListItems
    omega
  exact safe_bind (safe_readList _ hlen) fun _ => safe_bind (safe_readList _ hlen) fun _ =>
    safe_pure _

theorem safe_decodeCmdGrGetInfo (paramsAddr paramsSize : ℕ) :
    Safe (decodeCmdGrGetInfo paramsAddr paramsSize) w := by
  refine safe_knownParams fun p _ => ?_
  have hsize : Pod.size NvxxxxCtrlXxxInfo = 8 := by decide
  have hlen : min p.grInfoListSize.toNat maxCtrlListItems * Pod.size NvxxxxCtrlXxxInfo < 2 ^ 63 := by
    rw [hsize]
    unfold maxCtrlListItems
    omega
  exact safe_bind (safe_readList _ hlen) fun _ => safe_pure _

/-! ### Dispatch of the control commands -/

theorem safe_decodeKnownRmControl (hu : w.state.UserHalf) (cmd : U32) (paramsAddr : ℕ)
    {paramsSize : ℕ} (hsize : paramsSize < 2 ^ 32) :
    Safe (decodeKnownRmControl cmd paramsAddr paramsSize) w := by
  unfold decodeKnownRmControl
  split
  all_goals first
    | exact safe_knownParams fun _ _ => safe_pure _
    | exact safe_knownParams fun _ _ => safe_bind (safe_clamped _ _) fun (_, _) => safe_pure _
    | exact safe_knownParams fun _ _ => safe_bind (safe_prefixOf (by omega)) fun _ => safe_pure _
    | exact safe_knownParams fun _ _ => safe_bind (safe_readCString _) fun _ => safe_pure _
    | exact safe_knownParams fun _ _ => safe_bind (safe_readRemoteString _ (by decide)) fun _ =>
        safe_pure _
    | exact safe_decodeCmdSystemGetP2pCapsMatrix _ _
    | exact safe_decodeCmdGpuGetProbedIds _ _
    | exact safe_decodeCmdSyncGpuBoostGroupInfo _ _
    | exact safe_decodeCmdFifoGetChannellist _ _
    | exact safe_decodeCmdGpuGetNameString _ _
    | exact safe_decodeCmdGpuQueryEccStatus _ _
    | exact safe_decodeCmdGrGetInfo _ _
    | exact safe_decodeCmdCeGetAllCaps _ _
    | exact safe_decodeCmdNvlinkGetNvlinkStatus hu hsize
    | exact safe_decodeCmdNv2080LegacyGeneric _ _ _

/-! ### Escapes -/

theorem safe_decodeNvos54Payload (hu : w.state.UserHalf) (os54 : NvOs54Parameters) (maxBlob : ℕ) :
    Safe (decodeNvos54Payload os54 maxBlob) w := by
  simp only [decodeNvos54Payload]
  split
  · exact safe_pure _
  · refine safe_bind (safe_decodeKnownRmControl hu _ _ os54.paramsSize.isLt) fun decoded => ?_
    cases decoded with
    | some report => exact safe_pure _
    | none =>
      have hmul : maxInnerPreviewWords * 4 < usizeLimit := by decide
      simp only [Safe, wp_bind, wp_mul hmul]
      split
      · simp
      · have hlt := os54.paramsSize.isLt
        simp only [wp_bind, wp_readBytes, wp_pure, and_true]
        omega

theorem safe_decodeXfer (hu : w.state.UserHalf) (argPtr : U64) (mode : IoctlDecodeMode)
    (maxBlob : ℕ) : Safe (decodeXfer argPtr mode maxBlob) w := by
  simp only [decodeXfer, Safe, wp_bind, wp_readPod]
  cases w.state.pod NvIoctlXfer argPtr.toNat with
  | none => simp
  | some xfer =>
    dsimp only
    split
    · simp
    · split
      · simp
      · simp only [wp_bind, wp_readPod]
        cases w.state.pod NvOs54Parameters xfer.ptr.toNat with
        | none => simp
        | some os54 => exact safe_bind (safe_decodeNvos54Payload hu os54 maxBlob) fun _ => safe_pure _

theorem safe_decodeRmControl (hu : w.state.UserHalf) (m : IoctlMeta) (argPtr : U64) (maxBlob : ℕ) :
    Safe (decodeRmControl m argPtr maxBlob) w :=
  safe_checkedPod fun os54 _ =>
    safe_bind (safe_decodeNvos54Payload hu os54 maxBlob) fun _ => safe_pure _

theorem safe_decodeRmAllocMemory (m : IoctlMeta) (argPtr : U64) :
    Safe (decodeRmAllocMemory m argPtr) w := by
  unfold decodeRmAllocMemory
  split_ifs
  · exact safe_checkedPod fun _ _ => safe_pure _
  · exact safe_checkedPod fun _ _ => safe_pure _
  · exact safe_pure _

theorem safe_decodeAllocBlob (paramsPtr : U64) {paramsSize : ℕ} (maxBlob : ℕ)
    (h : paramsSize < 2 ^ 32) : Safe (decodeAllocBlob paramsPtr paramsSize maxBlob) w := by
  simp only [decodeAllocBlob]
  split
  · exact safe_pure _
  · simp only [Safe, wp_bind, wp_readBytes]
    constructor
    · omega
    · cases hb : w.state.bytes paramsPtr.toNat (min paramsSize (max maxBlob 16)) with
      | none => simp
      | some bytes =>
        have hlen := Target.length_bytes hb
        exact safe_bind (safe_hexBytes (by omega)) fun _ => safe_pure _

theorem safe_decodeRmAlloc (m : IoctlMeta) (argPtr : U64) (maxBlob : ℕ) :
    Safe (decodeRmAlloc m argPtr maxBlob) w := by
  unfold decodeRmAlloc
  split_ifs
  · exact safe_checkedPod fun p _ =>
      safe_bind (safe_decodeAllocBlob _ _ p.paramsSize.isLt) fun _ => safe_pure _
  · exact safe_checkedPod fun p _ =>
      safe_bind (safe_decodeAllocBlob _ _ p.paramsSize.isLt) fun _ => safe_pure _
  · exact safe_pure _

theorem safe_decodeRmMapMemory (m : IoctlMeta) (argPtr : U64) :
    Safe (decodeRmMapMemory m argPtr) w := by
  unfold decodeRmMapMemory
  split_ifs
  · exact safe_checkedPod fun _ _ => safe_pure _
  · exact safe_pure _

theorem safe_decodeVidHeapData (function : U32) (dataAddr : ℕ) :
    Safe (decodeVidHeapData function dataAddr) w := by
  unfold decodeVidHeapData
  split
  all_goals simp [Safe]

/-- The header has been read, so the data starts in the lower half. -/
theorem safe_decodeRmVidHeapControl (hu : w.state.UserHalf) (m : IoctlMeta) (argPtr : U64) :
    Safe (decodeRmVidHeapControl m argPtr) w := by
  simp only [decodeRmVidHeapControl, readCheckedPod, Safe, wp_bind]
  split
  · simp
  · cases hp : w.state.pod RmVidHeapControlPrefix argPtr.toNat with
    | none => simp [hp]
    | some p =>
      have hbound := hu.pod_bound (by decide) hp
      have hadd : argPtr.toNat + Pod.size RmVidHeapControlPrefix < usizeLimit := by
        unfold usizeLimit
        omega
      simp only [wp_bind, wp_readPod, hp, wp_pure, wp_add hadd]
      exact wp_mono (safe_decodeVidHeapData _ _) fun _ _ => trivial

theorem safe_decodeRmAccessRegistry (m : IoctlMeta) (argPtr : U64) (maxBlob : ℕ) :
    Safe (decodeRmAccessRegistry m argPtr maxBlob) w := by
  refine safe_checkedPod fun p _ => ?_
  have hdev := p.devNodeLength.isLt
  have hparm := p.parmStrLength.isLt
  exact safe_bind (safe_readRemoteString _ (by omega)) fun _ =>
    safe_bind (safe_readRemoteString _ (by omega)) fun _ => safe_pure _

theorem safe_decodeRmGetEventData (m : IoctlMeta) (argPtr : U64) :
    Safe (decodeRmGetEventData m argPtr) w := by
  refine safe_checkedPod fun p _ => ?_
  simp [Safe]

theorem safe_decodeAttachGpus (m : IoctlMeta) (argPtr : U64) (maxBlob : ℕ) :
    Safe (decodeAttachGpus m argPtr maxBlob) w := by
  have hword : Pod.size U32 ≠ 0 := by decide
  have hdeclared := m.size.isLt
  simp only [decodeAttachGpus]
  split
  · exact safe_pure _
  · simp only [Safe, wp_bind, wp_rem hword]
    split
    · simp
    · simp only [wp_bind, wp_readBytes]
      constructor
      · omega
      · cases w.state.bytes argPtr.toNat (min m.size.toNat (max maxBlob (Pod.size U32))) with
        | none => simp
        | some bytes => simp [wp_div hword]

theorem safe_jsonCardInfoArray (values : List NvIoctlCardInfo) : Safe (jsonCardInfoArray values) w :=
  safe_bind (safe_forEach fun _ _ => safe_bind (safe_readCString _) fun _ => safe_pure _)
    fun _ => safe_pure _

/-- The entries up to number `idx` have been read, so its address is in range. -/
theorem safe_readCards (hu : w.state.UserHalf) (argPtr : U64) {idx remaining : ℕ}
    (hidx : idx + remaining < 2 ^ 32)
    (hread : argPtr.toNat + idx * Pod.size NvIoctlCardInfo < usizeLimit) :
    Safe (readCards argPtr idx remaining) w := by
  have hsize : Pod.size NvIoctlCardInfo = 72 := by decide
  induction remaining generalizing idx with
  | zero => exact safe_pure _
  | succ remaining ih =>
    have hmul : idx * Pod.size NvIoctlCardInfo < usizeLimit := by omega
    simp only [readCards, Safe, wp_bind, wp_mul hmul, wp_add hread, wp_readPod]
    cases hp : w.state.pod NvIoctlCardInfo (argPtr.toNat + idx * Pod.size NvIoctlCardInfo) with
    | none => simp
    | some entry =>
      have hbound := hu.pod_bound (by decide) hp
      have hnext : argPtr.toNat + (idx + 1) * Pod.size NvIoctlCardInfo < usizeLimit := by
        unfold usizeLimit
        rw [hsize] at hbound ⊢
        omega
      exact safe_bind (ih (by omega) hnext) fun _ => safe_pure _

theorem safe_decodeCardInfo (hu : w.state.UserHalf) (m : IoctlMeta) (argPtr : U64) (maxBlob : ℕ) :
    Safe (decodeCardInfo m argPtr maxBlob) w := by
  have hcard : Pod.size NvIoctlCardInfo ≠ 0 := by decide
  have hdeclared := m.size.isLt
  have harg := argPtr.isLt
  have hcount : m.size.toNat / Pod.size NvIoctlCardInfo ≤ m.size.toNat := Nat.div_le_self _ _
  simp only [decodeCardInfo]
  split
  · exact safe_pure _
  · simp only [Safe, wp_bind, wp_div hcard]
    refine wp_mono (safe_readCards hu argPtr (by omega) (by simpa [usizeLimit] using harg))
      fun decoded _ => ?_
    split
    · simp
    · exact safe_bind (safe_jsonCardInfoArray decoded) fun _ => safe_pure _

theorem safe_decodeUnknown (m : IoctlMeta) (argPtr : U64) (maxBlob : ℕ) :
    Safe (decodeUnknown m argPtr maxBlob) w := by
  have hdeclared := m.size.isLt
  simp only [decodeUnknown]
  split
  · exact safe_pure _
  · simp only [Safe, wp_bind, wp_readBytes]
    constructor
    · omega
    · cases hb : w.state.bytes argPtr.toNat (min m.size.toNat (max maxBlob 16)) with
      | none => simp
      | some bytes =>
        have hlen := Target.length_bytes hb
        exact safe_bind (safe_hexBytes (by omega)) fun _ => safe_pure _

theorem safe_reportFields {d : Decoding Report} (h : Safe d w) : Safe (reportFields d) w :=
  safe_bind h fun _ => safe_pure _

/-- The escapes whose argument has no known structure. -/
def opaqueEscapes : List ℕ :=
  [nvEscRmConfigGet, nvEscRmConfigSet, nvEscRmConfigGetEx, nvEscRmConfigSetEx,
   nvEscRmExportObjectToFd, nvEscRmImportObjectFromFd, nvEscRmLocklessDiagnostic]

theorem decodeEscape_opaqueEscapes {m : IoctlMeta} (hnr : m.nr.toNat ∈ opaqueEscapes) (argPtr : U64)
    (mode : IoctlDecodeMode) (maxBlob : ℕ) :
    decodeEscape m argPtr mode maxBlob = reportFields (decodeRmOpaque m argPtr) := by
  simp only [opaqueEscapes, List.mem_cons, List.not_mem_nil, or_false] at hnr
  unfold decodeEscape
  rcases hnr with hnr | hnr | hnr | hnr | hnr | hnr | hnr
  all_goals
    rw [hnr]
    rfl

theorem safe_reportFields_iff {d : Decoding Report} : Safe (reportFields d) w ↔ Safe d w := by
  simp [Safe, reportFields]

/-- Nothing has been read when `decode_rm_opaque` adds to the pointer. -/
theorem safe_decodeRmOpaque_iff (m : IoctlMeta) (argPtr : U64) :
    Safe (decodeRmOpaque m argPtr) w ↔
      ¬ (w.overflowChecks = true ∧ 4 ≤ m.size.toNat ∧
        2 ^ 64 ≤ argPtr.toNat + m.size.toNat) := by
  have hword : Pod.size U32 = 4 := by decide
  have hlimit : usizeLimit = 2 ^ 64 := rfl
  simp only [decodeRmOpaque, Safe, hword]
  by_cases hsize : 4 ≤ m.size.toNat
  · rw [if_pos hsize]
    simp only [wp_bind, add, wp_usize]
    by_cases hadd : argPtr.toNat + m.size.toNat < usizeLimit
    · have hrange : ¬ 2 ^ 64 ≤ argPtr.toNat + m.size.toNat := by omega
      rw [wp_sub (by omega)]
      simp only [hadd, hrange, wp_readPod, wp_pure]
      simp
    · have hrange : 2 ^ 64 ≤ argPtr.toNat + m.size.toNat := by omega
      cases hw : w.overflowChecks with
      | true =>
        simp only [hadd, hsize, hrange]
        simp
      | false =>
        simp only [hadd, sub, wp_usize, wp_readPod, wp_pure, hw]
        simpa using Nat.lt_or_ge _ _ |>.symm
  · simp [hsize]

theorem safe_decodeEscape (hu : w.state.UserHalf) {m : IoctlMeta}
    (hnr : m.nr.toNat ∉ opaqueEscapes) (argPtr : U64) (mode : IoctlDecodeMode) (maxBlob : ℕ) :
    Safe (decodeEscape m argPtr mode maxBlob) w := by
  unfold decodeEscape
  split
  all_goals first
    | exact safe_decodeRmVidHeapControl hu m argPtr
    | apply safe_reportFields
  all_goals first
    | exact safe_checkedPod fun _ _ => safe_pure _
    | exact safe_checkedPod fun _ _ => safe_bind (safe_readCString _) fun _ => safe_pure _
    | exact safe_checkedPod fun _ _ => safe_bind (safe_prefixOf (by omega)) fun _ => safe_pure _
    | exact safe_decodeXfer hu _ _ _
    | exact safe_decodeRmControl hu _ _ _
    | exact safe_decodeRmAllocMemory _ _
    | exact safe_decodeRmAlloc _ _ _
    | exact safe_decodeRmMapMemory _ _
    | exact safe_decodeRmAccessRegistry _ _ _
    | exact safe_decodeRmGetEventData _ _
    | exact safe_decodeAttachGpus _ _ _
    | exact safe_decodeCardInfo hu _ _ _
    | exact safe_decodeUnknown _ _ _
    | rename_i hescape
      exact absurd (by rw [hescape]; decide) hnr

theorem safe_decodeNvidiaIoctl_iff (hu : w.state.UserHalf) (m : IoctlMeta) (argPtr : U64)
    {mode : IoctlDecodeMode} (hmode : mode ≠ .off) (maxBlob : ℕ) :
    Safe (decodeNvidiaIoctl m argPtr mode maxBlob) w ↔
      ¬ (w.overflowChecks = true ∧ mode = .full ∧ m.iocType = nvIoctlMagic ∧
        m.nr.toNat ∈ opaqueEscapes ∧ 4 ≤ m.size.toNat ∧
        2 ^ 64 ≤ argPtr.toNat + m.size.toNat) := by
  unfold decodeNvidiaIoctl
  by_cases hmagic : m.iocType = nvIoctlMagic
  · by_cases hheader : mode = .header
    · simp [Safe, hmagic, hheader]
    · have hfull : mode = .full := by
        cases mode with
        | full => rfl
        | header => exact absurd rfl hheader
        | off => exact absurd rfl hmode
      by_cases hnull : argPtr = 0
      · have hrange : ¬ 2 ^ 64 ≤ (0 : U64).toNat + m.size.toNat := by
          have hzero : (0 : U64).toNat = 0 := rfl
          have hdeclared := m.size.isLt
          omega
        simp only [Safe, hmagic, hfull, hnull, hrange, and_false]
        simp
      · have hdecode : Safe (do return some (← decodeEscape m argPtr mode maxBlob)) w ↔
            Safe (decodeEscape m argPtr mode maxBlob) w := by simp [Safe]
        rw [if_neg (by simpa using hmagic), if_neg hheader, if_neg hnull, hdecode]
        by_cases hnr : m.nr.toNat ∈ opaqueEscapes
        · rw [decodeEscape_opaqueEscapes hnr, safe_reportFields_iff, safe_decodeRmOpaque_iff]
          simp [hmagic, hfull, hnr]
        · simp [safe_decodeEscape hu hnr, hnr]
  · simp [Safe, hmagic]

end Rm

/-! ### The summary -/

/-- The declared end of an argument without a known structure is past 2^64. -/
def OpaqueOverflows (cmd argPtr : U64) (mode : IoctlDecodeMode) (fdPath : Option String) : Prop :=
  let m := decodeIoctlCmd cmd
  ioctlDecoder mode fdPath = some .rm ∧ mode = .full ∧ m.iocType = nvIoctlMagic ∧
    m.nr.toNat ∈ Rm.opaqueEscapes ∧ 4 ≤ m.size.toNat ∧ 2 ^ 64 ≤ argPtr.toNat + m.size.toNat

/-- The summary of an ioctl panics in one case only, in a build with overflow checks. -/
theorem safe_summarizeIoctl_iff (hu : w.state.UserHalf) (cmd argPtr : U64) (mode : IoctlDecodeMode)
    (maxBlob : ℕ) (fdPath : Option String) :
    Safe (summarizeIoctl cmd argPtr mode maxBlob fdPath) w ↔
      ¬ (w.overflowChecks = true ∧ OpaqueOverflows cmd argPtr mode fdPath) := by
  have hargs : Safe (summarizeIoctl cmd argPtr mode maxBlob fdPath) w ↔
      Safe (decodeArgs (decodeIoctlCmd cmd) argPtr mode maxBlob fdPath) w := by
    constructor
    · intro h
      rw [summarizeIoctl, Safe, wp_bind] at h
      exact wp_mono h fun _ _ => trivial
    · intro h
      exact safe_bind h fun fields => by cases fields <;> exact safe_pure _
  rw [hargs]
  unfold decodeArgs OpaqueOverflows
  cases hd : ioctlDecoder mode fdPath with
  | none => simp [Safe]
  | some decoder =>
    cases decoder with
    | uvm =>
      have huvm : Safe (Uvm.decodeUvmIoctl (decodeIoctlCmd cmd) argPtr mode maxBlob) w :=
        Uvm.safe_decodeUvmIoctl _ _ _ _
      simpa using safe_bind huvm fun report => safe_pure (some report.fields)
    | rm =>
      have hmode : mode ≠ .off := by
        rintro rfl
        simp [ioctlDecoder] at hd
      simpa using Rm.safe_decodeNvidiaIoctl_iff hu _ argPtr hmode maxBlob

/-- Nothing can be read. -/
def unreadable : Target where
  byte := fun _ => none

/-- `NV_ESC_RM_CONFIG_GET` on 4 bytes. -/
def configGetCmd : U64 := 0xc0044632

theorem safe_configGet_low :
    Safe (summarizeIoctl configGetCmd 4096 .full 256 (some "/dev/nvidiactl")) ⟨true, unreadable⟩ ↔
      ¬ (true = true ∧ OpaqueOverflows configGetCmd 4096 .full (some "/dev/nvidiactl")) :=
  safe_summarizeIoctl_iff (fun _ _ => rfl) _ _ _ _ _

/-- The last four bytes of the address space. -/
theorem configGet_top_panics :
    ¬ Safe (summarizeIoctl configGetCmd 0xfffffffffffffffc .full 256 (some "/dev/nvidiactl"))
      ⟨true, unreadable⟩ := by
  rintro ⟨text, htext, _⟩
  have hpanic : (summarizeIoctl configGetCmd 0xfffffffffffffffc .full 256 (some "/dev/nvidiactl")
      ⟨true, unreadable⟩).outcome = .error .overflow := rfl
  rw [hpanic] at htext
  cases htext

end CudaTrace.Decode
