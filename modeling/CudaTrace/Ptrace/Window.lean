import CudaTrace.Base.Channel
import CudaTrace.Ptrace.Remote

/-!
# Depth and window tables (ptrace.rs)

The receiving side of the two pipes: the last published call depth of each
thread, and for each thread the labels of the matched calls it is inside.
-/

namespace CudaTrace.Ptrace
open CudaTrace.Base

def fgraphWindowEventExit : UInt8 := 0
def fgraphWindowEventEnter : UInt8 := 1
def fgraphFuncNameMax : ℕ := 96

structure FgraphScopeLabel where
  func : String
  seq : U32
  deriving DecidableEq

structure FgraphWindowState where
  depth : ℕ
  labels : List FgraphScopeLabel
  deriving DecidableEq

def FgraphWindowState.default : FgraphWindowState := ⟨0, []⟩

abbrev DepthByTid := Pid → Option ℕ
abbrev WindowByTid := Pid → Option FgraphWindowState

/-! ### The function-name field -/

/-- `set_func`: at most 96 bytes of the name, the rest of the field zero. -/
def setFunc (func : String) : Vector UInt8 fgraphFuncNameMax :=
  Vector.ofFn fun i => (utf8Bytes func).getD i.val 0

/-- `func_name`: the bytes before the first zero. -/
def funcName (func : Vector UInt8 fgraphFuncNameMax) : String :=
  fromUtf8Lossy (func.toList.takeWhile (· ≠ 0))

theorem takeWhile_ne_zero (bytes : List UInt8) (h0 : 0 ∉ bytes) (n : ℕ) :
    (bytes ++ List.replicate n 0).takeWhile (· ≠ 0) = bytes := by
  induction bytes with
  | nil => cases n <;> simp [List.replicate_succ]
  | cons b bytes ih =>
    have hb : b ≠ 0 := fun hb => h0 (by simp [hb])
    have ht : 0 ∉ bytes := fun ht => h0 (List.mem_cons_of_mem _ ht)
    rw [List.cons_append, List.takeWhile_cons_of_pos (by simpa using hb), ih ht]

theorem setFunc_toList (func : String) (hlen : (utf8Bytes func).length ≤ fgraphFuncNameMax) :
    (setFunc func).toList =
      utf8Bytes func ++ List.replicate (fgraphFuncNameMax - (utf8Bytes func).length) 0 := by
  apply List.ext_getElem
  · simp only [Vector.length_toList, List.length_append, List.length_replicate]
    omega
  · intro i hi hi'
    by_cases h : i < (utf8Bytes func).length
    · rw [List.getElem_append_left h]
      simp [setFunc, h]
    · rw [List.getElem_append_right (by omega)]
      simp [setFunc, h]

/-- A name that fits the field and has no zero byte arrives unchanged. -/
theorem funcName_setFunc (func : String) (hlen : (utf8Bytes func).length ≤ fgraphFuncNameMax)
    (h0 : 0 ∉ utf8Bytes func) : funcName (setFunc func) = func := by
  unfold funcName
  rw [setFunc_toList func hlen, takeWhile_ne_zero _ h0, fromUtf8Lossy_utf8Bytes]

/-! ### Applying records -/

def applyFgraphWindowUpdate (msg : FgraphWindowUpdate) (windowByTid : WindowByTid) : WindowByTid :=
  let depth := msg.depth.toNat
  if depth = 0 then Function.update windowByTid msg.tid none
  else
    let state := (windowByTid msg.tid).getD .default
    if msg.event = fgraphWindowEventEnter then
      Function.update windowByTid msg.tid (some
        { depth := depth
          labels := state.labels.take (depth - 1) ++ [⟨funcName msg.func, msg.seq⟩] })
    else
      Function.update windowByTid msg.tid (some
        { depth := depth
          labels := state.labels.take depth })

def drainDepthUpdates (records : List DepthUpdate) (depthByTid : DepthByTid) : DepthByTid :=
  records.foldl (fun m msg => Function.update m msg.tid (some msg.depth.toNat)) depthByTid

def drainFgraphWindowUpdates (records : List FgraphWindowUpdate) (windowByTid : WindowByTid) :
    WindowByTid :=
  records.foldl (fun m msg => applyFgraphWindowUpdate msg m) windowByTid

def windowDepth (windowByTid : WindowByTid) (tid : Pid) : ℕ :=
  match windowByTid tid with
  | none => 0
  | some state => state.depth

def currentFgraphScopeLabel (tid : Pid) (windowByTid : WindowByTid) : Option String :=
  (windowByTid tid).bind fun state =>
    state.labels.getLast?.map fun label => label.func ++ toString label.seq.toNat

/-! ### Entry by entry -/

/-- A depth record applied to the entry of its thread. -/
def depthEntry (msg : DepthUpdate) (_ : Option ℕ) : Option ℕ := some msg.depth.toNat

theorem drainDepthUpdates_eq (records : List DepthUpdate) (table : DepthByTid) :
    drainDepthUpdates records table = applyAll (·.tid) depthEntry records table := rfl

/-- An entry depends on the table's own entry and on the records of a set of threads it is in. -/
theorem drainDepthUpdates_congr {records records' : List DepthUpdate} {table table' : DepthByTid}
    {p : Pid → Bool} {t : Pid} (ht : p t = true) (htable : table' t = table t)
    (h : records'.filter (p ·.tid) = records.filter (p ·.tid)) :
    drainDepthUpdates records' table' t = drainDepthUpdates records table t := by
  have hown : ∀ l : List DepthUpdate, (l.filter (p ·.tid)).filter (·.tid = t) = l.filter (·.tid = t) := by
    intro l
    rw [List.filter_filter]
    refine List.filter_congr fun msg _ => ?_
    by_cases hm : msg.tid = t
    · simp [hm, ht]
    · simp [hm]
  rw [drainDepthUpdates_eq, drainDepthUpdates_eq, applyAll_eq, applyAll_eq, ← hown records', h, hown, htable]

/-- What a record makes of the entry of its thread. -/
def FgraphWindowUpdate.applyTo (msg : FgraphWindowUpdate) (entry : Option FgraphWindowState) :
    Option FgraphWindowState :=
  let depth := msg.depth.toNat
  let state := entry.getD .default
  if depth = 0 then none
  else if msg.event = fgraphWindowEventEnter then
    some ⟨depth, state.labels.take (depth - 1) ++ [⟨funcName msg.func, msg.seq⟩]⟩
  else some ⟨depth, state.labels.take depth⟩

theorem applyFgraphWindowUpdate_eq (msg : FgraphWindowUpdate) (w : WindowByTid) :
    applyFgraphWindowUpdate msg w =
      applyAt (·.tid) FgraphWindowUpdate.applyTo w msg := by
  unfold applyFgraphWindowUpdate applyAt FgraphWindowUpdate.applyTo
  dsimp only
  split_ifs <;> rfl

theorem drainFgraphWindowUpdates_eq (records : List FgraphWindowUpdate) (w : WindowByTid) :
    drainFgraphWindowUpdates records w =
      applyAll (·.tid) FgraphWindowUpdate.applyTo records w := by
  unfold drainFgraphWindowUpdates applyAll
  simp only [applyFgraphWindowUpdate_eq]

/-- A record only touches the entry of the thread it names. -/
theorem drainFgraphWindowUpdates_of_ne (records : List FgraphWindowUpdate) (w : WindowByTid)
    {t : Pid} (h : ∀ msg ∈ records, msg.tid ≠ t) : drainFgraphWindowUpdates records w t = w t := by
  rw [drainFgraphWindowUpdates_eq]
  exact applyAll_of_ne h

/-- The entry that stands for the open windows `labels`, outermost first. -/
def windowEntry (labels : List FgraphScopeLabel) : Option FgraphWindowState :=
  if labels.isEmpty then none else some ⟨labels.length, labels⟩

theorem windowEntry_getD (labels : List FgraphScopeLabel) :
    (windowEntry labels).getD .default = ⟨labels.length, labels⟩ := by
  cases labels with
  | nil => rfl
  | cons l labels => rfl

theorem applyTo_enter {msg : FgraphWindowUpdate} {labels : List FgraphScopeLabel}
    (hev : msg.event = fgraphWindowEventEnter) (hd : msg.depth.toNat = labels.length + 1) :
    msg.applyTo (windowEntry labels) =
      windowEntry (labels ++ [⟨funcName msg.func, msg.seq⟩]) := by
  have hne : (labels ++ [⟨funcName msg.func, msg.seq⟩] : List FgraphScopeLabel).isEmpty = false := by
    simp
  unfold FgraphWindowUpdate.applyTo
  simp only [windowEntry_getD, hev, hd, Nat.succ_ne_zero, if_false, if_true, Nat.add_sub_cancel,
    List.take_length]
  rw [windowEntry, hne, List.length_append, List.length_singleton]
  rfl

theorem applyTo_exit {msg : FgraphWindowUpdate} {labels : List FgraphScopeLabel}
    {l : FgraphScopeLabel} (hev : msg.event = fgraphWindowEventExit)
    (hd : msg.depth.toNat = labels.length) :
    msg.applyTo (windowEntry (labels ++ [l])) = windowEntry labels := by
  have hev' : msg.event ≠ fgraphWindowEventEnter := by
    rw [hev]
    decide
  unfold FgraphWindowUpdate.applyTo
  simp only [windowEntry_getD, hev', hd, if_false, List.take_left]
  cases labels with
  | nil => rfl
  | cons _ _ => rfl

end CudaTrace.Ptrace
