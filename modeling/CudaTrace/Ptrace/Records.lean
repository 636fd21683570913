import CudaTrace.Base.Layout
import CudaTrace.Base.RecordPipe
import CudaTrace.Ptrace.Backlog
import CudaTrace.Ptrace.Tables

/-!
# The records as bytes (ptrace.rs, `publish_*` and `drain_*`)

A record goes through its pipe as the bytes it has in memory. Both ends of a pipe are
nonblocking; every hooked thread writes to it, and the tracer alone reads.
-/

namespace CudaTrace.Ptrace
open CudaTrace.Base

/-! ### Memory layout -/

instance : Pod DepthUpdate := .ofCtor DepthUpdate.mk

/-- `event` is followed by three reserved bytes. -/
instance : Pod FgraphWindowUpdate :=
  .ofCtor fun tid depth seq event (_reserved : Vector UInt8 3) func =>
    FgraphWindowUpdate.mk tid depth seq event func

def depthUpdateAsBytes (msg : DepthUpdate) : List UInt8 :=
  leBytes 4 msg.tid.toNat ++ leBytes 4 msg.depth.toNat

def fgraphWindowUpdateAsBytes (msg : FgraphWindowUpdate) : List UInt8 :=
  leBytes 4 msg.tid.toNat ++ (leBytes 4 msg.depth.toNat ++ (leBytes 4 msg.seq.toNat ++
    msg.event :: 0 :: 0 :: 0 :: msg.func.toList))

theorem size_records : Pod.size DepthUpdate = RecordKind.depth.size ∧
    Pod.size FgraphWindowUpdate = RecordKind.window.size := by
  decide

theorem length_depthUpdateAsBytes (msg : DepthUpdate) :
    (depthUpdateAsBytes msg).length = Pod.size DepthUpdate := by
  rw [depthUpdateAsBytes, List.length_append, length_leBytes, length_leBytes]
  rfl

theorem length_fgraphWindowUpdateAsBytes (msg : FgraphWindowUpdate) :
    (fgraphWindowUpdateAsBytes msg).length = Pod.size FgraphWindowUpdate := by
  simp only [fgraphWindowUpdateAsBytes, List.length_append, List.length_cons, length_leBytes,
    Vector.length_toList]
  rfl

theorem drop_leBytes (v : ℕ) (rest : List UInt8) : (leBytes 4 v ++ rest).drop 4 = rest :=
  List.drop_left' (length_leBytes 4 v)

theorem depthUpdate_ofBytes (msg : DepthUpdate) : Pod.ofBytes (depthUpdateAsBytes msg) = msg := by
  have htid : (Pod.ofBytes (depthUpdateAsBytes msg) : I32) = msg.tid := Pod.ofBytes_leBytes _ _
  have hdepth : (Pod.ofBytes ((depthUpdateAsBytes msg).drop 4) : U32) = msg.depth := by
    have hend := Pod.ofBytes_leBytes msg.depth []
    rw [List.append_nil] at hend
    rw [depthUpdateAsBytes, drop_leBytes, hend]
  show DepthUpdate.mk (Pod.ofBytes (depthUpdateAsBytes msg))
    (Pod.ofBytes ((depthUpdateAsBytes msg).drop 4)) = msg
  rw [htid, hdepth]

theorem vector_ofBytes {n : ℕ} (v : Vector UInt8 n) : Pod.ofBytes v.toList = v := by
  refine Vector.ext fun i hi => ?_
  have hlen : i < v.toList.length := by rwa [Vector.length_toList]
  show (Vector.ofFn fun j : Fin n => (v.toList.drop (j.val * 1)).headD 0)[i] = v[i]
  rw [Vector.getElem_ofFn, Nat.mul_one, List.headD_eq_head?_getD, List.head?_drop,
    List.getElem?_eq_getElem hlen, Option.getD_some, Vector.getElem_toList]

theorem fgraphWindowUpdate_ofBytes (msg : FgraphWindowUpdate) :
    Pod.ofBytes (fgraphWindowUpdateAsBytes msg) = msg := by
  generalize hbytes : fgraphWindowUpdateAsBytes msg = bytes
  have htail : bytes.drop 12 = msg.event :: 0 :: 0 :: 0 :: msg.func.toList := by
    rw [← hbytes, fgraphWindowUpdateAsBytes, ← List.drop_drop (i := 8) (j := 4),
      ← List.drop_drop (i := 4) (j := 4), drop_leBytes, drop_leBytes, drop_leBytes]
  have htid : (Pod.ofBytes bytes : I32) = msg.tid := by
    rw [← hbytes]
    exact Pod.ofBytes_leBytes _ _
  have hdepth : (Pod.ofBytes (bytes.drop 4) : U32) = msg.depth := by
    rw [← hbytes, fgraphWindowUpdateAsBytes, drop_leBytes]
    exact Pod.ofBytes_leBytes _ _
  have hseq : (Pod.ofBytes (bytes.drop 8) : U32) = msg.seq := by
    rw [← hbytes, fgraphWindowUpdateAsBytes, ← List.drop_drop (i := 4) (j := 4), drop_leBytes,
      drop_leBytes]
    exact Pod.ofBytes_leBytes _ _
  have hevent : (Pod.ofBytes (bytes.drop 12) : UInt8) = msg.event := by
    rw [htail]
    rfl
  have hfunc : (Pod.ofBytes (bytes.drop 16) : Vector UInt8 96) = msg.func := by
    rw [← List.drop_drop (i := 4) (j := 12), htail]
    exact vector_ofBytes msg.func
  show FgraphWindowUpdate.mk (Pod.ofBytes bytes) (Pod.ofBytes (bytes.drop 4))
    (Pod.ofBytes (bytes.drop 8)) (Pod.ofBytes (bytes.drop 12)) (Pod.ofBytes (bytes.drop 16)) = msg
  rw [htid, hdepth, hseq, hevent, hfunc]

def depthCodec : RecordCodec DepthUpdate where
  size := Pod.size DepthUpdate
  encode := depthUpdateAsBytes
  decode := Pod.ofBytes
  size_pos := by decide
  length_encode := length_depthUpdateAsBytes
  decode_encode := depthUpdate_ofBytes

def windowCodec : RecordCodec FgraphWindowUpdate where
  size := Pod.size FgraphWindowUpdate
  encode := fgraphWindowUpdateAsBytes
  decode := Pod.ofBytes
  size_pos := by decide
  length_encode := length_fgraphWindowUpdateAsBytes
  decode_encode := fgraphWindowUpdate_ofBytes

/-! ### The pipes -/

/-- `PIPE_BUF`. -/
def pipeBuf : ℕ := 4096

def insertDepth (table : DepthByTid) (msg : DepthUpdate) : DepthByTid :=
  Function.update table msg.tid (some msg.depth.toNat)

def insertWindow (table : WindowByTid) (msg : FgraphWindowUpdate) : WindowByTid :=
  applyFgraphWindowUpdate msg table

abbrev DepthPipe := RecordPipe DepthByTid
abbrev WindowPipe := RecordPipe WindowByTid

def depthPipe (cap : ℕ) : System DepthPipe (RecordPipeLabel DepthUpdate DepthByTid) :=
  RecordPipe.system depthCodec insertDepth pipeBuf cap fun _ => none

def windowPipe (cap : ℕ) : System WindowPipe (RecordPipeLabel FgraphWindowUpdate WindowByTid) :=
  RecordPipe.system windowCodec insertWindow pipeBuf cap fun _ => none

theorem depthCodec_atomic : depthCodec.size ≤ pipeBuf := by decide

theorem windowCodec_atomic : windowCodec.size ≤ pipeBuf := by decide

theorem pipes_exact (cap : RecordKind → ℕ) :
    (∀ s w, (depthPipe (cap .depth)).Trace (fun _ _ => True) (RecordPipe.events depthCodec) s w →
      RecordPipe.Exact depthCodec insertDepth (cap .depth) (fun _ => none) s w) ∧
    (∀ s w, (windowPipe (cap .window)).Trace (fun _ _ => True) (RecordPipe.events windowCodec) s w →
      RecordPipe.Exact windowCodec insertWindow (cap .window) (fun _ => none) s w) :=
  ⟨fun _ _ => RecordPipe.exact_of_trace depthCodec_atomic,
    fun _ _ => RecordPipe.exact_of_trace windowCodec_atomic⟩

/-- One record goes in, and a drain takes it out. -/
def passOnce : List (RecordPipeLabel DepthUpdate DepthByTid) :=
  [.write ⟨100, 1⟩ 8, .drain, .read (.got [100, 0, 0, 0, 1, 0, 0, 0]), .read .again]

theorem pipes_exact_once : RecordPipe.Exact depthCodec insertDepth 65536 (fun _ => none)
    ⟨[], false, insertDepth (fun _ => none) ⟨100, 1⟩⟩
    [.sent ⟨100, 1⟩, .began, .received ⟨100, 1⟩, .idle] :=
  (pipes_exact pipeCapacity).1 _ _
    (System.Trace.of_foldlM (g := RecordPipe.step depthCodec insertDepth pipeBuf 65536)
      (p := (RecordPipe.initial fun _ => none, [])) (q := (_, _)) (fun _ _ _ hs => ⟨trivial, hs⟩)
      (.start rfl) (rfl : passOnce.foldlM _ _ = some _))

/-! ### Records under way as bytes -/

namespace Backlog

def depths (s : Backlog) : List DepthUpdate := s.records.filterMap (·.2.depth?)

def windows (s : Backlog) : List FgraphWindowUpdate := s.records.filterMap (·.2.window?)

/-- The pipes hold the bytes of the records under way, and the tables are those of the loop. -/
structure Carried (s : Backlog) (d : DepthPipe) (w : WindowPipe) : Prop where
  depths : d = ⟨s.depths.flatMap depthUpdateAsBytes, false, s.sys.loop.depthByTid⟩
  windows : w = ⟨s.windows.flatMap fgraphWindowUpdateAsBytes, false, s.sys.loop.fgraphWindowByTid⟩

/-- Runs of the two pipes that end as `s` has it. -/
def Implemented (cap : RecordKind → ℕ) (s : Backlog) : Prop :=
  ∃ d w, (depthPipe (cap .depth)).Reachable d ∧ (windowPipe (cap .window)).Reachable w ∧
    s.Carried d w

theorem length_depths (s : Backlog) : s.depths.length = (s.queue .depth).length := by
  rw [depths, List.length_filterMap_eq_countP, queue, ← List.countP_eq_length_filter]
  refine List.countP_congr fun x _ => ?_
  cases x.2 <;> simp [Record.depth?, Record.kind]

theorem length_windows (s : Backlog) : s.windows.length = (s.queue .window).length := by
  rw [windows, List.length_filterMap_eq_countP, queue, ← List.countP_eq_length_filter]
  refine List.countP_congr fun x _ => ?_
  cases x.2 <;> simp [Record.window?, Record.kind]

/-- There is room for a record when its pipe takes the bytes whole. -/
theorem room_depth_iff {s : Backlog} {d : DepthPipe} {w : WindowPipe} (h : s.Carried d w)
    (cap : RecordKind → ℕ) (msg : DepthUpdate) :
    s.room cap .depth = true ↔
      PipeTakes pipeBuf (cap .depth) d.bytes (depthUpdateAsBytes msg) depthCodec.size := by
  rw [h.depths, room, decide_eq_true_iff, ← length_depths]
  exact (depthCodec.takes_iff s.depths msg).symm

theorem room_window_iff {s : Backlog} {d : DepthPipe} {w : WindowPipe} (h : s.Carried d w)
    (cap : RecordKind → ℕ) (msg : FgraphWindowUpdate) :
    s.room cap .window = true ↔
      PipeTakes pipeBuf (cap .window) w.bytes (fgraphWindowUpdateAsBytes msg) windowCodec.size := by
  rw [h.windows, room, decide_eq_true_iff, ← length_windows]
  exact (windowCodec.takes_iff s.windows msg).symm

section Steps

variable {g : Globals} {cap : RecordKind → ℕ} {s s' : Backlog}

/-- A step that leaves the records and the two tables alone. -/
theorem Implemented.same (h : s.Implemented cap) (hrecords : s'.records = s.records)
    (hdepths : s'.sys.loop.depthByTid = s.sys.loop.depthByTid)
    (hwindows : s'.sys.loop.fgraphWindowByTid = s.sys.loop.fgraphWindowByTid) :
    s'.Implemented cap := by
  obtain ⟨d, w, hd, hw, hc⟩ := h
  refine ⟨d, w, hd, hw, ?_, ?_⟩
  · rw [hc.depths, Backlog.depths, Backlog.depths, hrecords, hdepths]
  · rw [hc.windows, Backlog.windows, Backlog.windows, hrecords, hwindows]

/-- The loop changes the two tables and leaves the records alone. -/
theorem Implemented.edit (h : s.Implemented cap) (hrecords : s'.records = s.records) (f : DepthByTid → DepthByTid)
    (hdepths : s'.sys.loop.depthByTid = f s.sys.loop.depthByTid) (f' : WindowByTid → WindowByTid)
    (hwindows : s'.sys.loop.fgraphWindowByTid = f' s.sys.loop.fgraphWindowByTid) :
    s'.Implemented cap := by
  obtain ⟨d, w, hd, hw, hc⟩ := h
  rw [hc.depths] at hd
  rw [hc.windows] at hw
  refine ⟨_, _, RecordPipe.reach_edit f rfl hd, RecordPipe.reach_edit f' rfl hw, ?_, ?_⟩
  · rw [Backlog.depths, Backlog.depths, hrecords, hdepths]
  · rw [Backlog.windows, Backlog.windows, hrecords, hwindows]

theorem Implemented.drain (h : s.Implemented cap) (hrecords : s'.records = [])
    (hdepths : s'.sys.loop.depthByTid = drainDepthUpdates s.depths s.sys.loop.depthByTid)
    (hwindows : s'.sys.loop.fgraphWindowByTid =
      drainFgraphWindowUpdates s.windows s.sys.loop.fgraphWindowByTid) :
    s'.Implemented cap := by
  obtain ⟨d, w, hd, hw, hc⟩ := h
  rw [hc.depths] at hd
  rw [hc.windows] at hw
  have hnone : s'.depths = [] := by rw [Backlog.depths, hrecords, List.filterMap_nil]
  have hnone' : s'.windows = [] := by rw [Backlog.windows, hrecords, List.filterMap_nil]
  refine ⟨_, _, RecordPipe.reach_drain hd, RecordPipe.reach_drain hw, ?_, ?_⟩
  · rw [hnone, hdepths]
    rfl
  · rw [hnone', hwindows]
    rfl

theorem Implemented.send (h : s.Implemented cap) {t : Pid} {r : Record} (hroom : s.room cap r.kind = true)
    (hrecords : s'.records = s.records ++ [(t, r)]) (hsys : s'.sys = s.sys) : s'.Implemented cap := by
  obtain ⟨d, w, hd, hw, hc⟩ := h
  cases r with
  | depth msg =>
    have hdepths : s'.depths = s.depths ++ [msg] := by
      rw [Backlog.depths, hrecords, List.filterMap_append]
      rfl
    have hwindows : s'.windows = s.windows := by
      rw [Backlog.windows, hrecords, List.filterMap_append]
      exact List.append_nil _
    refine ⟨_, w, RecordPipe.reach_send ((room_depth_iff hc cap msg).mp hroom) hd, hw, ?_, ?_⟩
    · rw [hc.depths, hdepths, hsys, List.flatMap_append, List.flatMap_singleton]
      rfl
    · rw [hc.windows, hwindows, hsys]
  | window msg =>
    have hdepths : s'.depths = s.depths := by
      rw [Backlog.depths, hrecords, List.filterMap_append]
      exact List.append_nil _
    have hwindows : s'.windows = s.windows ++ [msg] := by
      rw [Backlog.windows, hrecords, List.filterMap_append]
      rfl
    refine ⟨d, _, hd, RecordPipe.reach_send ((room_window_iff hc cap msg).mp hroom) hw, ?_, ?_⟩
    · rw [hc.depths, hdepths, hsys]
    · rw [hc.windows, hwindows, hsys, List.flatMap_append, List.flatMap_singleton]
      rfl

/-- Nothing is drained in the rest of a turn. -/
def Rested (s : Backlog) : Prop := ∀ t env status, s.turn = some (t, env, status) → restEnv env = env

theorem Rested.step (h : s.Rested) {l : BacklogLabel} (hs : s.step g cap l = some s') : s'.Rested := by
  obtain ⟨⟨s₁, moved⟩, hobs, rfl⟩ := Option.map_eq_some_iff.mp hs
  intro t env status hturn
  have hdoes := stepObs_does hobs
  cases hdoes with
  | waited =>
    cases hturn
    rfl
  | handle => cases hturn
  | _ => exact h t env status hturn

theorem Implemented.step (h : s.Implemented cap) (hrest : s.Rested) {l : BacklogLabel}
    (hs : s.step g cap l = some s') : s'.Implemented cap := by
  obtain ⟨⟨s₁, moved⟩, hobs, rfl⟩ := Option.map_eq_some_iff.mp hs
  have hdoes := stepObs_does hobs
  cases hdoes with
  | move => exact h.same rfl rfl rfl
  | @attached sys hsys =>
    obtain ⟨⟨sys', released⟩, hsys', rfl⟩ := Option.map_eq_some_iff.mp hsys
    obtain ⟨-, task, stop, -, -, rfl, -⟩ := attached_cases hsys'
    exact h.same rfl rfl rfl
  | @sent t r =>
    obtain ⟨-, hif⟩ := Option.ite_none_right_eq_some.mp hobs
    by_cases hroom : s.room cap r.kind = true
    · exact h.send hroom rfl rfl
    · dsimp only at hif
      rw [if_neg hroom] at hif
      have hmoved := (Prod.mk.inj (Option.some.inj hif)).2
      cases (List.cons.inj hmoved).1
  | refused => exact h.same rfl rfl rfl
  | waited => exact h.drain rfl rfl rfl
  | @handle t env status hturn =>
    have henv := hrest t env status hturn
    refine h.edit rfl (fun m => if waitKind status = .gone then Function.update m t none else m)
      ?_ (fun m => if waitKind status = .gone then Function.update m t none else m) ?_
    · have hloop := loopIter_depths g (restEnv env) t status s.sys.loop
      rw [henv] at hloop
      refine hloop.trans ?_
      rw [← henv]
      rfl
    · have hloop := loopIter_windows g (restEnv env) t status s.sys.loop
      rw [henv] at hloop
      refine hloop.trans ?_
      rw [← henv]
      rfl

end Steps

theorem implemented {g : Globals} {cap : RecordKind → ℕ} {s : Backlog} (h : (backlog g cap).Reachable s) :
    s.Implemented cap := by
  have hall : s.Rested ∧ s.Implemented cap := by
    induction h with
    | start hs =>
      obtain ⟨sys, ⟨target, controller, fdPaths, hiddenFds, ranges, rfl⟩, rfl⟩ := hs
      refine ⟨fun t env status hturn => (by cases hturn), ?_⟩
      exact ⟨RecordPipe.initial fun _ => none, RecordPipe.initial fun _ => none, .start rfl, .start rfl,
        rfl, rfl⟩
    | step _ _ hs ih => exact ⟨ih.1.step hs, ih.2.step ih.1 hs⟩
  exact hall.2

end Backlog

theorem backlog_as_bytes (g : Globals) (cap : RecordKind → ℕ) (s : Backlog)
    (h : (backlog g cap).Reachable s) :
    ∃ d w, (depthPipe (cap .depth)).Reachable d ∧ (windowPipe (cap .window)).Reachable w ∧
      s.Carried d w ∧
      (∀ msg, s.room cap .depth = true ↔
        PipeTakes pipeBuf (cap .depth) d.bytes (depthUpdateAsBytes msg) depthCodec.size) ∧
      (∀ msg, s.room cap .window = true ↔
        PipeTakes pipeBuf (cap .window) w.bytes (fgraphWindowUpdateAsBytes msg) windowCodec.size) := by
  obtain ⟨d, w, hd, hw, hc⟩ := Backlog.implemented h
  exact ⟨d, w, hd, hw, hc, Backlog.room_depth_iff hc cap, Backlog.room_window_iff hc cap⟩

theorem backlog_as_bytes_one : ∃ d, (depthPipe 65536).Reachable d ∧
    d.bytes = [100, 0, 0, 0, 1, 0, 0, 0] := by
  have hstart : (backlog plainGlobals pipeCapacity).Reachable (.initial (.initial 100 idleLoop)) :=
    .start ⟨_, ⟨100, _, _, _, _, rfl⟩, rfl⟩
  have hreach : (backlog plainGlobals pipeCapacity).Reachable _ :=
    System.Reachable.of_foldlM hstart (show publishOnce.foldlM _ _ = some _ from rfl)
  obtain ⟨d, w, hd, -, hc, -⟩ := backlog_as_bytes plainGlobals pipeCapacity _ hreach
  exact ⟨d, hd, congrArg RecordPipe.bytes hc.depths⟩

end CudaTrace.Ptrace
