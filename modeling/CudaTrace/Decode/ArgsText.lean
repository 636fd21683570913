import CudaTrace.Decode.Summary

/-!
# The text after `args=`

What a decoder writes reads as one JSON object. No key is repeated in it, but for the
report on freed video memory.
-/

namespace CudaTrace.Decode
open CudaTrace.Base CudaTrace.Base.Checked
open CudaTrace.Ptrace (U32 U64)

/-- One object with nothing around it, no key twice at any level, one `status` member. -/
def WellFormedArgs (text : String) : Prop :=
  text.toList.head? = some '{' ∧ text.toList.getLast? = some '}' ∧
    ∃ members, Json.parse text = some (.obj members) ∧ (Json.obj members).UniqueKeys ∧
      (members.map Prod.fst).count "status" = 1

theorem wellFormedArgs_objectText (fs : List Field) :
    WellFormedArgs (objectText fs) ↔
      (fs.map Field.key).Nodup ∧ (fs.map Field.key).count "status" = 1 := by
  have hparse : Json.parse (objectText fs) = some (objectValue fs) := (reads_objectText fs).parse
  have hkeys : (fs.map fun f => (f.key, f.value)).map Prod.fst = fs.map Field.key := by
    simp [Function.comp_def]
  constructor
  · rintro ⟨_, _, members, hmembers, hunique, hstatus⟩
    rw [hparse, objectValue, Option.some.injEq, Json.obj.injEq] at hmembers
    subst hmembers
    rw [hkeys] at hstatus
    exact ⟨(uniqueKeys_objectValue fs).mp hunique, hstatus⟩
  · rintro ⟨hnodup, hstatus⟩
    refine ⟨?_, ?_, _, hparse, (uniqueKeys_objectValue fs).mpr hnodup, ?_⟩
    · simp [toList_objectText]
    · rw [toList_objectText, List.getLast?_concat]
    · rw [hkeys]
      exact hstatus

theorem Report.wellFormed (r : Report) : WellFormedArgs (objectText r.fields) := by
  have hstatus : "status" ∈ r.fields.map Field.key := by simp [Report.fields]
  exact (wellFormedArgs_objectText r.fields).mpr
    ⟨r.nodup_fields, List.count_eq_one_of_mem r.nodup_fields hstatus⟩

/-! ### The report on freed memory -/

/-- What `decode_rm_vid_heap_control` is given when it repeats a key: function 3, with
the data of that function behind the header. -/
def VidHeapFree (t : Target) (m : IoctlMeta) (argPtr : U64) : Prop :=
  (m.size.toNat = 0 ∨ Pod.size RmVidHeapControlPrefix ≤ m.size.toNat) ∧
    (∃ p, t.pod RmVidHeapControlPrefix argPtr.toNat = some p ∧ p.function = 3) ∧
    (t.pod RmVidHeapFreeData
      ((argPtr.toNat + Pod.size RmVidHeapControlPrefix) % usizeLimit)).isSome

/-- What the data adds to the keys of the header: one of them again, or at most one
that is new. -/
def VidHeapDataKeys (function : U32) (dataAddr : ℕ) (d : Decoding (Option Field)) : Prop :=
  ∀ w o, (d w).outcome = .ok o →
    (function = 3 ∧ (w.state.pod RmVidHeapFreeData dataAddr).isSome ∧
      o.toList.map Field.key = ["free"]) ∨
    (¬ (function = 3 ∧ (w.state.pod RmVidHeapFreeData dataAddr).isSome) ∧
      ∃ key ∈ ["allocSize", "allocOsDesc"], (o.toList.map Field.key).Sublist [key])

theorem vidHeapDataKeys (function : U32) (dataAddr : ℕ) :
    VidHeapDataKeys function dataAddr (Rm.decodeVidHeapData function dataAddr) := by
  unfold Rm.decodeVidHeapData
  split
  all_goals intro w o h
  · rename_i hfn
    have hne : function ≠ 3 := by
      rintro rfl
      simp at hfn
    simp only [readPod, ok_bind, ok_ask, ok_pure] at h
    obtain ⟨data, _, rfl⟩ := h
    refine .inr ⟨fun hboth => hne hboth.1, "allocSize", by simp, ?_⟩
    cases data with
    | none => simp
    | some data => simp
  · rename_i hfn
    have heq : function = 3 := BitVec.eq_of_toNat_eq hfn
    simp only [readPod, ok_bind, ok_ask, ok_pure] at h
    obtain ⟨data, hdata, rfl⟩ := h
    cases data with
    | none => exact .inr ⟨by simp [hdata], "allocSize", by simp, by simp⟩
    | some data => exact .inl ⟨heq, by simp [hdata], by simp⟩
  · rename_i hfn
    have hne : function ≠ 3 := by
      rintro rfl
      simp at hfn
    simp only [readPod, ok_bind, ok_ask, ok_pure] at h
    obtain ⟨data, _, rfl⟩ := h
    refine .inr ⟨fun hboth => hne hboth.1, "allocOsDesc", by simp, ?_⟩
    cases data with
    | none => simp
    | some data => simp
  · rename_i _ hfn _
    have hne : function ≠ 3 := by
      rintro rfl
      exact hfn rfl
    simp only [ok_pure] at h
    subst h
    exact .inr ⟨fun hboth => hne hboth.1, "allocSize", by simp, by simp⟩

/-- The keys of the header, then those of the data. -/
theorem wellFormed_vidHeap {p : RmVidHeapControlPrefix} {data : List Field} :
    WellFormedArgs (objectText (Rm.vidHeapMembers p ++ data ++ [.str "status" "ok"])) ↔
      ((Rm.vidHeapMembers p ++ data).map Field.key ++ ["status"]).Nodup := by
  rw [wellFormedArgs_objectText, List.map_append]
  constructor
  · rintro ⟨hnodup, _⟩
    simpa using hnodup
  · intro hnodup
    exact ⟨by simpa using hnodup, List.count_eq_one_of_mem (by simpa using hnodup) (by simp)⟩

theorem vidHeap_wellFormed_iff {m : IoctlMeta} {argPtr : U64} {w : World Target} {fs : List Field}
    (h : (Rm.decodeRmVidHeapControl m argPtr w).outcome = .ok fs) :
    WellFormedArgs (objectText fs) ↔ ¬ VidHeapFree w.state m argPtr := by
  simp only [Rm.decodeRmVidHeapControl, ok_bind] at h
  obtain ⟨r, hr, h⟩ := h
  rcases ok_readCheckedPod hr with ⟨hsize, p, hp, rfl⟩ | ⟨hno, err, rfl⟩
  · simp only [ok_bind, ok_pure] at h
    obtain ⟨dataAddr, hadd, o, hdata, rfl⟩ := h
    have haddr := ok_add hadd
    subst haddr
    rw [wellFormed_vidHeap]
    rcases vidHeapDataKeys p.function _ w o hdata with ⟨hfn, hsome, hkey⟩ | ⟨hnot, key, hmem, hkeys⟩
    · have hfree : VidHeapFree w.state m argPtr := ⟨hsize, ⟨p, hp, hfn⟩, hsome⟩
      simp [hfree, hkey, Rm.vidHeapMembers]
    · have hfree : ¬ VidHeapFree w.state m argPtr := by
        rintro ⟨_, ⟨q, hq, hfn⟩, hsome⟩
        rw [hp, Option.some.injEq] at hq
        subst hq
        exact hnot ⟨hfn, hsome⟩
      have hfull : ((Rm.vidHeapMembers p).map Field.key ++ [key] ++ ["status"]).Nodup := by
        simp only [List.mem_cons, List.not_mem_nil, or_false] at hmem
        rcases hmem with rfl | rfl
        · simp [Rm.vidHeapMembers]
        · simp [Rm.vidHeapMembers]
      have hnodup := hfull.sublist
        (((List.Sublist.refl _).append hkeys).append (List.Sublist.refl ["status"]))
      simpa [hfree] using hnodup
  · simp only [ok_pure] at h
    subst h
    have hfree : ¬ VidHeapFree w.state m argPtr := by
      rintro ⟨hsize, ⟨q, hq, _⟩, _⟩
      exact hno ⟨hsize, q, hq⟩
    simp [hfree, Report.wellFormed]

/-! ### Every other decoder -/

/-- Whatever the computation yields is a well-formed object. -/
def YieldsWellFormed (d : Decoding (List Field)) : Prop :=
  ∀ w fs, (d w).outcome = .ok fs → WellFormedArgs (objectText fs)

theorem yieldsWellFormed_reportFields (d : Decoding Report) :
    YieldsWellFormed (Rm.reportFields d) := by
  intro w fs h
  simp only [Rm.reportFields, ok_bind, ok_pure] at h
  obtain ⟨r, _, rfl⟩ := h
  exact r.wellFormed

theorem yieldsWellFormed_decodeEscape {m : IoctlMeta} (hnr : m.nr.toNat ≠ nvEscRmVidHeapControl)
    (argPtr : U64) (mode : IoctlDecodeMode) (maxBlob : ℕ) :
    YieldsWellFormed (Rm.decodeEscape m argPtr mode maxBlob) := by
  unfold Rm.decodeEscape
  split
  all_goals first
    | exact yieldsWellFormed_reportFields _
    | exact absurd (by assumption) hnr

/-! ### The summary -/

/-- The ioctls whose summary repeats a key. -/
def RepeatsKey (cmd argPtr : U64) (mode : IoctlDecodeMode) (fdPath : Option String)
    (t : Target) : Prop :=
  let m := decodeIoctlCmd cmd
  ioctlDecoder mode fdPath = some .rm ∧ mode = .full ∧ m.iocType = nvIoctlMagic ∧ argPtr ≠ 0 ∧
    m.nr.toNat = nvEscRmVidHeapControl ∧ VidHeapFree t m argPtr

/-- `RepeatsKey` for a decoder that has been chosen. -/
theorem nvidia_wellFormed_iff {m : IoctlMeta} {argPtr : U64} {mode : IoctlDecodeMode}
    {maxBlob : ℕ} {w : World Target} {fs : List Field} (hmode : mode ≠ .off)
    (h : (Rm.decodeNvidiaIoctl m argPtr mode maxBlob w).outcome = .ok (some fs)) :
    WellFormedArgs (objectText fs) ↔ ¬ (mode = .full ∧ m.iocType = nvIoctlMagic ∧ argPtr ≠ 0 ∧
      m.nr.toNat = nvEscRmVidHeapControl ∧ VidHeapFree w.state m argPtr) := by
  unfold Rm.decodeNvidiaIoctl at h
  split at h
  · simp at h
  · rename_i hmagic
    split at h
    · rename_i hheader
      simp only [ok_pure, Option.some.injEq] at h
      subst h
      simp [hheader, Report.wellFormed]
    · rename_i hheader
      split at h
      · rename_i hnull
        simp only [ok_pure, Option.some.injEq] at h
        subst h
        simp [hnull, Report.wellFormed]
      · rename_i hnull
        have hfull : mode = .full := by
          cases mode with
          | full => rfl
          | header => exact absurd rfl hheader
          | off => exact absurd rfl hmode
        have hm : m.iocType = nvIoctlMagic := by simpa using hmagic
        simp only [ok_bind, ok_pure, Option.some.injEq] at h
        obtain ⟨u, hu, rfl⟩ := h
        by_cases hnr : m.nr.toNat = nvEscRmVidHeapControl
        · have hvid : Rm.decodeEscape m argPtr mode maxBlob =
              Rm.decodeRmVidHeapControl m argPtr := by
            unfold Rm.decodeEscape
            rw [hnr]
            rfl
          rw [hvid] at hu
          rw [vidHeap_wellFormed_iff hu, not_iff_not]
          constructor
          · intro hfree
            exact ⟨hfull, hm, hnull, hnr, hfree⟩
          · rintro ⟨_, _, _, _, hfree⟩
            exact hfree
        · have hwell := yieldsWellFormed_decodeEscape hnr argPtr mode maxBlob w u hu
          simp [hwell, hnr]

theorem toList_inj_append {s t u : String} (h : s ++ t = s ++ u) : t = u := by
  have hlist := congrArg String.toList h
  rw [String.toList_append, String.toList_append, List.append_cancel_left_eq] at hlist
  exact String.toList_inj.mp hlist

theorem args_wellFormed_iff {cmd argPtr : U64} {mode : IoctlDecodeMode} {maxBlob : ℕ}
    {fdPath : Option String} {w : World Target} {fs : List Field}
    (h : (decodeArgs (decodeIoctlCmd cmd) argPtr mode maxBlob fdPath w).outcome = .ok (some fs)) :
    WellFormedArgs (objectText fs) ↔ ¬ RepeatsKey cmd argPtr mode fdPath w.state := by
  cases hd : ioctlDecoder mode fdPath with
  | none => simp [decodeArgs, hd] at h
  | some d =>
    cases d with
    | uvm =>
      simp only [decodeArgs, hd, ok_bind, ok_pure, Option.some.injEq] at h
      obtain ⟨r, _, rfl⟩ := h
      simp [RepeatsKey, hd, r.wellFormed]
    | rm =>
      have hmode : mode ≠ .off := by
        rintro rfl
        simp [ioctlDecoder] at hd
      simp only [decodeArgs, hd] at h
      rw [nvidia_wellFormed_iff hmode h]
      simp [RepeatsKey, hd]

theorem ok_summarizeIoctl {cmd argPtr : U64} {mode : IoctlDecodeMode} {maxBlob : ℕ}
    {fdPath : Option String} {w : World Target} {text : String} :
    (summarizeIoctl cmd argPtr mode maxBlob fdPath w).outcome =
        .ok (ioctlHeader (decodeIoctlCmd cmd) fdPath ++ ", args=" ++ text) ↔
      ∃ fs, (decodeArgs (decodeIoctlCmd cmd) argPtr mode maxBlob fdPath w).outcome =
        .ok (some fs) ∧ text = objectText fs := by
  simp only [summarizeIoctl, ok_bind]
  constructor
  · rintro ⟨o, ho, h⟩
    cases o with
    | none =>
      simp only [ok_pure] at h
      have hlen := congrArg String.length h
      simp only [String.length_append] at hlen
      have hargs : ", args=".length = 7 := rfl
      omega
    | some fs =>
      simp only [ok_pure] at h
      exact ⟨fs, ho, (toList_inj_append h).symm⟩
  · rintro ⟨fs, hfs, rfl⟩
    exact ⟨some fs, hfs, by simp⟩

/-- The summary of an ioctl is well formed unless it repeats a key of the report on a
request to free video memory. -/
theorem summary_wellFormed_iff {cmd argPtr : U64} {mode : IoctlDecodeMode} {maxBlob : ℕ}
    {fdPath : Option String} {w : World Target} {text : String}
    (h : (summarizeIoctl cmd argPtr mode maxBlob fdPath w).outcome =
      .ok (ioctlHeader (decodeIoctlCmd cmd) fdPath ++ ", args=" ++ text)) :
    WellFormedArgs text ↔ ¬ RepeatsKey cmd argPtr mode fdPath w.state := by
  obtain ⟨fs, hfs, rfl⟩ := ok_summarizeIoctl.mp h
  exact args_wellFormed_iff hfs

/-- `NV_ESC_RM_VID_HEAP_CONTROL` on 52 bytes. -/
def vidHeapCmd : U64 := 0xc034464a

/-- 52 readable bytes at 4096: zeros, but for the function in the header. -/
def freeRequest : Target where
  byte := fun addr =>
    if 4096 ≤ addr ∧ addr < 4148 then some (if addr = 4104 then 3 else 0) else none

theorem decodeArgs_freeRequest : ∃ fs,
    (decodeArgs (decodeIoctlCmd vidHeapCmd) 4096 .full 256 (some "/dev/nvidiactl")
      ⟨true, freeRequest⟩).outcome = .ok (some fs) := ⟨_, rfl⟩

theorem summary_freeRequest : ∃ text,
    (summarizeIoctl vidHeapCmd 4096 .full 256 (some "/dev/nvidiactl")
        ⟨true, freeRequest⟩).outcome =
      .ok (ioctlHeader (decodeIoctlCmd vidHeapCmd) (some "/dev/nvidiactl") ++ ", args=" ++ text) ∧
    (WellFormedArgs text ↔
      ¬ RepeatsKey vidHeapCmd 4096 .full (some "/dev/nvidiactl") freeRequest) := by
  obtain ⟨fs, hfs⟩ := decodeArgs_freeRequest
  have h := ok_summarizeIoctl.mpr ⟨fs, hfs, rfl⟩
  exact ⟨objectText fs, h, summary_wellFormed_iff h⟩

/-- The member `free` of the header and that of the data are both in the object. -/
theorem freeRequest_not_wellFormed : ∃ text,
    (summarizeIoctl vidHeapCmd 4096 .full 256 (some "/dev/nvidiactl")
        ⟨true, freeRequest⟩).outcome =
      .ok (ioctlHeader (decodeIoctlCmd vidHeapCmd) (some "/dev/nvidiactl") ++ ", args=" ++ text) ∧
    ¬ WellFormedArgs text := by
  obtain ⟨fs, hfs⟩ := decodeArgs_freeRequest
  have hsize : (40 : ℕ) ≤ (decodeIoctlCmd vidHeapCmd).size.toNat := by decide
  have hrepeats : RepeatsKey vidHeapCmd 4096 .full (some "/dev/nvidiactl") freeRequest :=
    ⟨by decide, rfl, by decide, by decide, by decide, .inr hsize, ⟨_, rfl, by decide⟩, by decide⟩
  refine ⟨objectText fs, ok_summarizeIoctl.mpr ⟨fs, hfs, rfl⟩, ?_⟩
  rw [args_wellFormed_iff hfs, not_not]
  exact hrepeats

end CudaTrace.Decode
