import CudaTrace.Decode.Rm

/-!
# Wrapped ioctls

`NV_ESC_IOCTL_XFER_CMD` carries the number, the size and the address of another
ioctl. Only the command `NV04_CONTROL` is unwrapped.
-/

namespace CudaTrace.Decode.Rm
open CudaTrace.Base CudaTrace.Base.Checked
open CudaTrace.Ptrace (U32 U64)

variable {w : World Target} {m : IoctlMeta} {argPtr : U64} {maxBlob : ℕ}

/-- The command is escape `nr` of the driver. -/
def IsEscape (nr : ℕ) (m : IoctlMeta) : Prop := m.iocType = nvIoctlMagic ∧ m.nr.toNat = nr

def xferFields (xfer : NvIoctlXfer) : List Field :=
  [.str "cmd_raw" (hex xfer.cmd), .u64 "size" (zext xfer.size), .str "ptr" (hex xfer.ptr)]

theorem nodup_xferFields (xfer : NvIoctlXfer) : ((xferFields xfer).map Field.key).Nodup := by
  simp [xferFields]

/-- The member that shows the envelope. -/
def xferEnvelope (xfer : NvIoctlXfer) : Field :=
  .raw "xfer" (Members.mk (xferFields xfer) (nodup_xferFields xfer)).finish

/-- What is shown of the ioctl that the envelope holds. -/
def payload (fs : List Field) : List Field :=
  fs.filter fun f => f.key != "xfer" && f.key != "status"

/-! ### The direct form -/

theorem decode_full (hm : m.iocType = nvIoctlMagic) (hnull : argPtr ≠ 0) :
    decodeNvidiaIoctl m argPtr .full maxBlob =
      (do return some (← decodeEscape m argPtr .full maxBlob)) := by
  rw [decodeNvidiaIoctl, if_neg (by simpa using hm), if_neg (by simp), if_neg hnull]

theorem decode_control (hm : IsEscape nvEscRmControl m) (hnull : argPtr ≠ 0) :
    decodeNvidiaIoctl m argPtr .full maxBlob =
      (do return some (← reportFields (decodeRmControl m argPtr maxBlob))) := by
  have hcase : decodeEscape m argPtr .full maxBlob =
      reportFields (decodeRmControl m argPtr maxBlob) := by
    rw [decodeEscape, hm.2]
    rfl
  rw [decode_full hm.1 hnull, hcase]

theorem decode_xfer (hm : IsEscape nvEscIoctlXferCmd m) (hnull : argPtr ≠ 0) :
    decodeNvidiaIoctl m argPtr .full maxBlob =
      (do return some (← reportFields (decodeXfer argPtr .full maxBlob))) := by
  have hcase : decodeEscape m argPtr .full maxBlob =
      reportFields (decodeXfer argPtr .full maxBlob) := by
    rw [decodeEscape, hm.2]
    rfl
  rw [decode_full hm.1 hnull, hcase]

/-- A declared size of a control request that its decoder accepts. -/
def AcceptedSize (m : IoctlMeta) : Prop :=
  m.size.toNat = 0 ∨ Pod.size NvOs54Parameters ≤ m.size.toNat

theorem outcome_bind {α β : Type} (d : Decoding α) (f : α → Decoding β) :
    ((d >>= f) w).outcome = (d w).outcome.bind fun v => (f v w).outcome := by
  simp only [bind, andThen]
  cases (d w).outcome with
  | error p => rfl
  | ok v => rfl

theorem outcome_pure {α : Type} (v : α) : ((pure v : Decoding α) w).outcome = .ok v := rfl

theorem outcome_readPod (T : Type) [Pod T] (via : Via) (addr : ℕ) :
    (readPod T via addr w).outcome = .ok (w.state.pod T addr) := rfl

/-- What a control request reports once its structure has been read. -/
def controlFields (r : Nvos54Report) : List Field := r.members ++ [.str "status" r.status]

theorem outcome_control (hm : IsEscape nvEscRmControl m) (hsize : AcceptedSize m)
    (hnull : argPtr ≠ 0) :
    (decodeNvidiaIoctl m argPtr .full maxBlob w).outcome =
      match w.state.pod NvOs54Parameters argPtr.toNat with
      | none => .ok (some [.str "status" "arg_unreadable"])
      | some os54 => (decodeNvos54Payload os54 maxBlob w).outcome.map (some ∘ controlFields) := by
  have hdeclared : ¬ (0 < m.size.toNat ∧ m.size.toNat < Pod.size NvOs54Parameters) := by
    unfold AcceptedSize at hsize
    omega
  rw [decode_control hm hnull]
  simp only [decodeRmControl, checkedPod, readCheckedPod, reportFields]
  rw [if_neg hdeclared]
  simp only [outcome_bind, outcome_readPod]
  cases w.state.pod NvOs54Parameters argPtr.toNat with
  | none => rfl
  | some os54 =>
    cases hrun : (decodeNvos54Payload os54 maxBlob w).outcome with
    | error p => simp [Except.bind, outcome_bind, outcome_pure, hrun, Except.map]
    | ok r => simp [Except.bind, outcome_bind, outcome_pure, hrun, Except.map, Report.fields,
        controlFields]

/-! ### The wrapped form -/

/-- The only command that is unwrapped. -/
def Unwrapped (xfer : NvIoctlXfer) : Prop := xfer.cmd = nv04Control ∧ xfer.ptr ≠ 0

theorem outcome_xfer_unwrapped (hm : IsEscape nvEscIoctlXferCmd m) (hnull : argPtr ≠ 0)
    {xfer : NvIoctlXfer} (hread : w.state.pod NvIoctlXfer argPtr.toNat = some xfer)
    (hxfer : Unwrapped xfer) :
    (decodeNvidiaIoctl m argPtr .full maxBlob w).outcome =
      match w.state.pod NvOs54Parameters xfer.ptr.toNat with
      | none => .ok (some [xferEnvelope xfer, .str "status" "os54_unreadable"])
      | some os54 => (decodeNvos54Payload os54 maxBlob w).outcome.map fun r =>
          some (xferEnvelope xfer :: controlFields r) := by
  have hgate : ¬ (xfer.cmd ≠ nv04Control ∨ xfer.ptr = 0) := by
    unfold Unwrapped at hxfer
    tauto
  rw [decode_xfer hm hnull]
  simp only [decodeXfer, reportFields, outcome_bind, outcome_readPod, hread]
  simp only [Except.bind, if_neg hgate, ne_eq, not_true_eq_false, if_false, outcome_bind,
    outcome_readPod]
  cases w.state.pod NvOs54Parameters xfer.ptr.toNat with
  | none => simp [outcome_pure, Report.fields, xferEnvelope, xferFields]
  | some os54 =>
    cases hrun : (decodeNvos54Payload os54 maxBlob w).outcome with
    | error p => simp [Except.bind, outcome_bind, hrun, Except.map]
    | ok r => simp [Except.bind, outcome_bind, outcome_pure, hrun, Except.map, Report.fields,
        controlFields, xferEnvelope, xferFields]

theorem outcome_xfer_other (hm : IsEscape nvEscIoctlXferCmd m) (hnull : argPtr ≠ 0)
    {xfer : NvIoctlXfer} (hread : w.state.pod NvIoctlXfer argPtr.toNat = some xfer)
    (hxfer : ¬ Unwrapped xfer) :
    (decodeNvidiaIoctl m argPtr .full maxBlob w).outcome =
      .ok (some [xferEnvelope xfer, .str "status" "xfer_non_nvos54"]) := by
  have hgate : xfer.cmd ≠ nv04Control ∨ xfer.ptr = 0 := by
    unfold Unwrapped at hxfer
    tauto
  rw [decode_xfer hm hnull]
  simp only [decodeXfer, reportFields, outcome_bind, outcome_readPod, hread]
  simp only [Except.bind, if_pos hgate, ne_eq, not_true_eq_false, if_false, outcome_pure]
  rfl

/-! ### The two forms -/

/-- A wrapped ioctl is decoded like the one it holds. -/
def Transparent : Prop :=
  ∀ (m wrapped : IoctlMeta) (argPtr : U64) (xfer : NvIoctlXfer) (maxBlob : ℕ) (w : World Target)
    (direct shown : List Field),
    IsEscape nvEscIoctlXferCmd wrapped → IsEscape xfer.cmd.toNat m →
    m.size.toNat = xfer.size.toNat → w.state.pod NvIoctlXfer argPtr.toNat = some xfer →
    (decodeNvidiaIoctl m xfer.ptr .full maxBlob w).outcome = .ok (some direct) →
    (decodeNvidiaIoctl wrapped argPtr .full maxBlob w).outcome = .ok (some shown) →
    payload shown = payload direct

/-- An envelope at 4096 holds `NV_ESC_RM_FREE` on the 16 zero bytes at 8192. -/
def wrappedFree : Target where
  byte := fun addr =>
    if addr = 4096 then some 0x29 else if addr = 4100 then some 16
    else if addr = 4105 then some 0x20
    else if 4096 ≤ addr ∧ addr < 4112 ∨ 8192 ≤ addr ∧ addr < 8208 then some 0 else none

/-- The members of the request to free an object are not shown. -/
theorem not_transparent : ¬ Transparent := by
  intro h
  have hsame := h (decodeIoctlCmd 0xc0104629) (decodeIoctlCmd 0xc01046d3) 4096 ⟨0x29, 16, 8192⟩
    256 ⟨true, wrappedFree⟩ _ _ ⟨by decide, by decide⟩ ⟨by decide, by decide⟩ (by decide)
    rfl rfl rfl
  have hkeys := congrArg (fun fs => fs.map Field.key) hsame
  revert hkeys
  decide

/-- The other escapes; the number of the control escape itself is left out. -/
def StaysWrapped (xfer : NvIoctlXfer) : Prop :=
  xfer.ptr = 0 ∨ xfer.cmd ≠ nv04Control ∧ xfer.cmd.toNat ≠ nvEscRmControl

/-- The command that is unwrapped is shown as the control request it holds, behind the
envelope; of the other escapes the envelope alone is shown. -/
theorem xfer_transparent {wrapped : IoctlMeta} (hm : IsEscape nvEscIoctlXferCmd wrapped)
    (hnull : argPtr ≠ 0) {xfer : NvIoctlXfer}
    (hread : w.state.pod NvIoctlXfer argPtr.toNat = some xfer) :
    (Unwrapped xfer → ∀ m, IsEscape nvEscRmControl m → AcceptedSize m →
      ((w.state.pod NvOs54Parameters xfer.ptr.toNat).isSome →
        (decodeNvidiaIoctl wrapped argPtr .full maxBlob w).outcome =
          (decodeNvidiaIoctl m xfer.ptr .full maxBlob w).outcome.map
            (Option.map (xferEnvelope xfer :: ·))) ∧
      (w.state.pod NvOs54Parameters xfer.ptr.toNat = none →
        (decodeNvidiaIoctl wrapped argPtr .full maxBlob w).outcome =
          .ok (some [xferEnvelope xfer, .str "status" "os54_unreadable"]) ∧
        (decodeNvidiaIoctl m xfer.ptr .full maxBlob w).outcome =
          .ok (some [.str "status" "arg_unreadable"]))) ∧
    (StaysWrapped xfer →
      (decodeNvidiaIoctl wrapped argPtr .full maxBlob w).outcome =
        .ok (some [xferEnvelope xfer, .str "status" "xfer_non_nvos54"])) := by
  constructor
  case right =>
    intro hstays
    refine outcome_xfer_other hm hnull hread ?_
    rintro ⟨hcmd, hptr⟩
    rcases hstays with hnull | ⟨hother, _⟩
    · exact hptr hnull
    · exact hother hcmd
  intro hxfer m hcontrol hsize
  rw [outcome_xfer_unwrapped hm hnull hread hxfer, outcome_control hcontrol hsize hxfer.2]
  cases w.state.pod NvOs54Parameters xfer.ptr.toNat with
  | none => simp
  | some os54 =>
    cases hrun : (decodeNvos54Payload os54 maxBlob w).outcome with
    | error p => simp [Except.map, hrun]
    | ok r => simp [Except.map, hrun]

/-- An envelope at 4096 holds the control command on the 32 zero bytes at 8192. -/
def wrappedControl : Target where
  byte := fun addr =>
    if addr = 4096 then some 0x36 else if addr = 4100 then some 32
    else if addr = 4105 then some 0x20
    else if 4096 ≤ addr ∧ addr < 4112 ∨ 8192 ≤ addr ∧ addr < 8224 then some 0 else none

theorem wrappedControl_transparent :
    (decodeNvidiaIoctl (decodeIoctlCmd 0xc01046d3) 4096 .full 256 ⟨true, wrappedControl⟩).outcome =
      (decodeNvidiaIoctl (decodeIoctlCmd 0xc020462a) 8192 .full 256
        ⟨true, wrappedControl⟩).outcome.map
          (Option.map (xferEnvelope ⟨0x36, 32, 8192⟩ :: ·)) := by
  have hxfer : Unwrapped ⟨0x36, 32, 8192⟩ := ⟨by decide, by decide⟩
  have hread : wrappedControl.pod NvIoctlXfer 4096 = some ⟨0x36, 32, 8192⟩ := rfl
  have hwrapped : IsEscape nvEscIoctlXferCmd (decodeIoctlCmd 0xc01046d3) :=
    ⟨by decide, by decide⟩
  have h := @xfer_transparent ⟨true, wrappedControl⟩ 4096 256 _ hwrapped (by decide) _ hread
  exact (h.1 hxfer (decodeIoctlCmd 0xc020462a) ⟨by decide, by decide⟩ (.inr (by decide))).1
    (by decide)

end CudaTrace.Decode.Rm
