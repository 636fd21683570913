import CudaTrace.Decode.EscapePlaces
import CudaTrace.Decode.Summary
import CudaTrace.Decode.UvmPlaces

/-!
# The numbers of a report are those of the argument

Every number that a decoder reports with status ok is the field of that name. One is not:
the descriptor of a request to map memory is written as an unsigned number.
-/

namespace CudaTrace.Decode
open CudaTrace.Base CudaTrace.Base.Checked
open CudaTrace.Ptrace (U32 U64 I32 I64)

/-- What the decoder shows of the argument of a command. -/
def argsForm (d : IoctlDecoder) (m : IoctlMeta) (addr : ℕ) : Form :=
  match d with
  | .uvm => Uvm.uvmForm (Uvm.normalizeUvmCmd m.raw) addr
  | .rm => reportForm addr (Rm.escapeRows m.nr.toNat m.size.toNat)

/-- A request to map memory with a negative descriptor. -/
def NegativeFd (d : IoctlDecoder) (m : IoctlMeta) (argPtr : U64) (t : Target) : Prop :=
  d = .rm ∧ m.nr.toNat = nvEscRmMapMemory ∧
    ∃ fd, fd < 0 ∧ (Rm.mapMemoryFd argPtr.toNat).value t = some fd

variable {m : IoctlMeta} {argPtr : U64} {mode : IoctlDecodeMode} {maxBlob : ℕ} {w : World Target}
  {fields : List Field}

theorem sizeMismatch_ne_ok (expected actual : ℕ) : sizeMismatch expected actual ≠ "ok" := by
  intro h
  have htext : sizeMismatch expected actual = "size_mismatch(expected>=" ++ toString expected ++
      ",actual=" ++ toString actual ++ ")" := rfl
  have hlen := congrArg String.length (htext.symm.trans h)
  have hfirst : "size_mismatch(expected>=".length = 24 := rfl
  have hok : "ok".length = 2 := rfl
  simp only [String.length_append, hfirst, hok] at hlen
  omega

/-- A fixed structure that was reported with status ok. -/
theorem ok_checkedPod {T : Type} [Pod T] {report : T → Decoding Report} {r : Report}
    (h : (checkedPod T m argPtr report w).outcome = .ok r) (hok : r.status = "ok") :
    ∃ bs, Holds w.state argPtr.toNat (Pod.size T) bs ∧
      (report (Pod.ofBytes bs) w).outcome = .ok r := by
  have hunreadable : "arg_unreadable" ≠ "ok" := by decide
  obtain ⟨read, hread, h⟩ := ok_bind.mp h
  simp only [readCheckedPod] at hread
  split at hread
  · cases ok_pure.mp hread
    cases ok_pure.mp h
    exact absurd hok (sizeMismatch_ne_ok _ _)
  · obtain ⟨o, ho, hread⟩ := ok_bind.mp hread
    cases o with
    | none =>
      cases ok_pure.mp hread
      cases ok_pure.mp h
      exact absurd hok hunreadable
    | some p =>
      cases ok_pure.mp hread
      obtain ⟨bs, hbs, rfl⟩ := ok_readPod ho
      exact ⟨bs, hbs, h⟩

theorem shows_decodeNvidiaIoctl
    (h : (Rm.decodeNvidiaIoctl m argPtr mode maxBlob w).outcome = .ok (some fields))
    (hok : Field.str "status" "ok" ∈ fields) (hfd : ¬ NegativeFd .rm m argPtr w.state) :
    Shows w.state (argsForm .rm m argPtr.toNat) (objectValue fields) := by
  have hheader : "header" ≠ "ok" := by decide
  have hnull : "arg_null" ≠ "ok" := by decide
  unfold Rm.decodeNvidiaIoctl at h
  split at h
  · cases ok_pure.mp h
  split at h
  · cases ok_pure.mp h
    exact absurd (Report.status_eq hok) hheader
  split at h
  · cases ok_pure.mp h
    exact absurd (Report.status_eq hok) hnull
  obtain ⟨fs, hfs, h⟩ := ok_bind.mp h
  cases ok_pure.mp h
  refine Rm.shows_decodeEscape hfs hok fun hnr fd hvalue => ?_
  by_contra hneg
  exact hfd ⟨rfl, hnr, fd, by omega, hvalue⟩

/-- The descriptor that a request to map memory is reported with. -/
theorem mem_decodeNvidiaIoctl (hnr : m.nr.toNat = nvEscRmMapMemory)
    (h : (Rm.decodeNvidiaIoctl m argPtr mode maxBlob w).outcome = .ok (some fields))
    (hok : Field.str "status" "ok" ∈ fields) :
    ∃ v : I32, (Rm.mapMemoryFd argPtr.toNat).value w.state = some v.toInt ∧
      Field.u64 "fd" (sext v) ∈ fields := by
  have hheader : "header" ≠ "ok" := by decide
  have hnull : "arg_null" ≠ "ok" := by decide
  unfold Rm.decodeNvidiaIoctl at h
  split at h
  · cases ok_pure.mp h
  split at h
  · cases ok_pure.mp h
    exact absurd (Report.status_eq hok) hheader
  split at h
  · cases ok_pure.mp h
    exact absurd (Report.status_eq hok) hnull
  obtain ⟨fs, hfs, h⟩ := ok_bind.mp h
  cases ok_pure.mp h
  rw [Rm.decodeEscape, hnr] at hfs
  obtain ⟨r, hr, hfs⟩ := ok_bind.mp hfs
  cases ok_pure.mp hfs
  have hstatus := Report.status_eq hok
  unfold Rm.decodeRmMapMemory at hr
  split at hr
  · obtain ⟨bs, hbs, hr⟩ := ok_checkedPod hr hstatus
    cases ok_pure.mp hr
    have hplace : Holds w.state (argPtr.toNat + 48) (32 / 8) (bs.drop 48) := hbs.drop (by decide)
    refine ⟨Pod.ofBytes (bs.drop 48), hplace.signed (by decide), List.mem_append_left _ ?_⟩
    exact List.mem_of_getElem? (i := 8) rfl
  · cases ok_pure.mp hr
    exact absurd hstatus (sizeMismatch_ne_ok _ _)

theorem not_shows_negativeFd
    (h : (Rm.decodeNvidiaIoctl m argPtr mode maxBlob w).outcome = .ok (some fields))
    (hok : Field.str "status" "ok" ∈ fields) (hneg : NegativeFd .rm m argPtr w.state) :
    ¬ Shows w.state (argsForm .rm m argPtr.toNat) (objectValue fields) := by
  obtain ⟨-, hnr, fd, hlt, hvalue⟩ := hneg
  obtain ⟨v, hv, hmem⟩ := mem_decodeNvidiaIoctl hnr h hok
  have hrows : argsForm .rm m argPtr.toNat =
      reportForm argPtr.toNat (Rm.escapeRows nvEscRmMapMemory m.size.toNat) := by
    rw [argsForm, hnr]
  rw [hrows]
  intro hshows
  cases hshows with
  | object hmembers =>
    have hfield : ("fd", Json.num (sext v).toNat 0) ∈ fields.map fun f => (f.key, f.value) :=
      List.mem_map.mpr ⟨_, hmem, rfl⟩
    obtain ⟨f, hf, hshow⟩ := hmembers.of_mem hfield
    have hform : f = .number (Rm.mapMemoryFd argPtr.toNat) := by
      simpa [Rm.escapeRows, Row.form, Row.hex, Row.unsigned, Row.code, Rm.mapMemoryFd] using hf
    rw [hform] at hshow
    cases hshow with
    | decimal hdecimal =>
      rw [hvalue, Option.some.injEq] at hdecimal
      omega

/-- The numbers of a report with status ok are those of the argument, unless the request is
to map memory with a negative descriptor. -/
theorem fieldValues_iff {d : IoctlDecoder} {fdPath : Option String}
    (hd : ioctlDecoder mode fdPath = some d)
    (h : (decodeArgs m argPtr mode maxBlob fdPath w).outcome = .ok (some fields))
    (hok : Field.str "status" "ok" ∈ fields) :
    Shows w.state (argsForm d m argPtr.toNat) (objectValue fields) ↔
      ¬ NegativeFd d m argPtr w.state := by
  cases d with
  | uvm =>
    simp only [decodeArgs, hd] at h
    obtain ⟨r, hr, h⟩ := ok_bind.mp h
    cases ok_pure.mp h
    have hshows := Uvm.shows_decodeUvmIoctl hr (Report.status_eq hok)
    exact iff_of_true hshows fun hneg => by cases hneg.1
  | rm =>
    simp only [decodeArgs, hd] at h
    constructor
    · exact fun hshows hneg => not_shows_negativeFd h hok hneg hshows
    · exact shows_decodeNvidiaIoctl h hok

/-- `NV_ESC_RM_MAP_MEMORY` on 56 bytes. -/
def mapMemoryCmd : U64 := 0xc038464e

/-- 56 readable bytes at 4096: zeros, but for those of the descriptor. -/
def mapRequest (b : UInt8) : Target where
  byte := fun addr =>
    if 4144 ≤ addr ∧ addr < 4148 then some b else if 4096 ≤ addr ∧ addr < 4152 then some 0 else none

theorem fieldValues_mapRequest : ∃ fields,
    (decodeArgs (decodeIoctlCmd mapMemoryCmd) 4096 .full 256 (some "/dev/nvidiactl")
      ⟨true, mapRequest 0⟩).outcome = .ok (some fields) ∧
    (Shows (mapRequest 0) (argsForm .rm (decodeIoctlCmd mapMemoryCmd) 4096) (objectValue fields) ↔
      ¬ NegativeFd .rm (decodeIoctlCmd mapMemoryCmd) 4096 (mapRequest 0)) := by
  have hd : ioctlDecoder .full (some "/dev/nvidiactl") = some .rm := by decide
  obtain ⟨fields, h, hok⟩ : ∃ fields,
      (decodeArgs (decodeIoctlCmd mapMemoryCmd) 4096 .full 256 (some "/dev/nvidiactl")
        ⟨true, mapRequest 0⟩).outcome = .ok (some fields) ∧ Field.str "status" "ok" ∈ fields :=
    ⟨_, rfl, List.mem_append_right _ List.mem_cons_self⟩
  exact ⟨fields, h, fieldValues_iff hd h hok⟩

/-- The descriptor -1 is reported as 18446744073709551615. -/
theorem negativeFd_not_shown : ∃ fields,
    (decodeArgs (decodeIoctlCmd mapMemoryCmd) 4096 .full 256 (some "/dev/nvidiactl")
      ⟨true, mapRequest 0xff⟩).outcome = .ok (some fields) ∧
    Field.str "status" "ok" ∈ fields ∧ Field.u64 "fd" 18446744073709551615 ∈ fields ∧
    (Rm.mapMemoryFd 4096).value (mapRequest 0xff) = some (-1) ∧
    ¬ Shows (mapRequest 0xff) (argsForm .rm (decodeIoctlCmd mapMemoryCmd) 4096)
      (objectValue fields) := by
  have hvalue : (Rm.mapMemoryFd 4096).value (mapRequest 0xff) = some (-1) := by decide
  have hneg : NegativeFd .rm (decodeIoctlCmd mapMemoryCmd) 4096 (mapRequest 0xff) :=
    ⟨rfl, by decide, -1, by decide, hvalue⟩
  obtain ⟨fields, h, hok, hfd⟩ : ∃ fields,
      (Rm.decodeNvidiaIoctl (decodeIoctlCmd mapMemoryCmd) 4096 .full 256
        ⟨true, mapRequest 0xff⟩).outcome = .ok (some fields) ∧ Field.str "status" "ok" ∈ fields ∧
        Field.u64 "fd" 18446744073709551615 ∈ fields :=
    ⟨_, rfl, List.mem_append_right _ List.mem_cons_self,
      List.mem_append_left _ (List.mem_of_getElem? (i := 8) rfl)⟩
  exact ⟨fields, h, hok, hfd, hvalue, not_shows_negativeFd h hok hneg⟩

end CudaTrace.Decode
