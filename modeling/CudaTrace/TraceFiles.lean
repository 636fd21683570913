import Mathlib.Data.List.AList
import CudaTrace.Base.Text
import CudaTrace.Base.Transition
import CudaTrace.Base.Utf8
import CudaTrace.ConfigEnv
import CudaTrace.WriteAll

/-!
# Trace files (hook/ptrace.rs, `FusedWriter`)

The tracer keeps one file for each task it writes lines for, opened at the first line and
closed when the task is gone. A line that does not get into its file goes to stdout.
-/

namespace CudaTrace.Ptrace
open CudaTrace.Base

/-- What a descriptor of the tracer refers to. -/
inductive Target where
  | stdout
  | file (path : String)
  | other
  deriving DecidableEq

structure Disk where
  fds : I32 → Option Target
  files : String → Bytes
  stdout : Bytes

namespace Disk

/-- Bytes that a write to `fd` took. -/
def append (k : Disk) (fd : I32) (bytes : Bytes) : Disk :=
  match k.fds fd with
  | some .stdout => { k with stdout := k.stdout ++ bytes }
  | some (.file path) => { k with files := Function.update k.files path (k.files path ++ bytes) }
  | some .other | none => k

def install (k : Disk) (fd : I32) (target : Target) : Disk :=
  { k with fds := Function.update k.fds fd (some target) }

def close (k : Disk) (fd : I32) : Disk := { k with fds := Function.update k.fds fd none }

@[simp] theorem install_self (k : Disk) (fd : I32) (target : Target) :
    (k.install fd target).fds fd = some target :=
  Function.update_self _ _ _

@[simp] theorem close_self (k : Disk) (fd : I32) : (k.close fd).fds fd = none :=
  Function.update_self _ _ _

theorem install_of_ne (k : Disk) {fd fd' : I32} (h : fd' ≠ fd) (target : Target) :
    (k.install fd target).fds fd' = k.fds fd' :=
  Function.update_of_ne h _ _

theorem close_of_ne (k : Disk) {fd fd' : I32} (h : fd' ≠ fd) : (k.close fd).fds fd' = k.fds fd' :=
  Function.update_of_ne h _ _

/-- `write_all` on `fd`. No answer of the kernel makes it panic. -/
def writeAll (k : Disk) (fd : I32) (results : ℕ → WriteResult) (fuel : ℕ) (data : Bytes) :
    Option (Disk × Written) :=
  (Ptrace.writeAll results fuel data).bind fun w =>
    if w.outcome = .panic then none else some (k.append fd w.accepted, w)

end Disk

def stdoutFileno : I32 := 1

def tidPath (basePath : String) (tid : Pid) : String := basePath ++ ".tid-" ++ toString tid.toInt

def lineBytes (line : String) : Bytes := (utf8Bytes line).map UInt8.toBitVec ++ [10#8]

structure FusedWriter where
  output : OutputMode
  basePath : String
  fds : AList fun _ : Pid => I32

def FusedWriter.fromConfig (cfg : Config) : FusedWriter := ⟨cfg.output, cfg.path, ∅⟩

/-- What the kernel answers during one `write_line`: to the `openat`, to the writes to the file
and to the writes to stdout. -/
structure LineAnswers where
  opened : I32
  file : ℕ → WriteResult
  stdout : ℕ → WriteResult
  fuel : ℕ

/-- What became of a line. `cut` is the part of it that its file took before a write failed,
`part` what stdout took. -/
inductive Fate where
  | filed
  | printed (cut : Bytes)
  | lost (cut part : Bytes)

structure TraceFiles where
  writer : FusedWriter
  disk : Disk

namespace TraceFiles

/-- `fd_for_tid`. The kernel gives out free numbers. -/
def fdForTid (s : TraceFiles) (tid : Pid) (opened : I32) : Option (TraceFiles × Option I32) :=
  match s.writer.fds.lookup tid with
  | some fd => some (s, some fd)
  | none =>
    let path := tidPath s.writer.basePath tid
    if path.toList.contains '\x00' then some (s, none)
    else if opened.toInt < 0 then some (s, none)
    else if s.disk.fds opened = none then
      some (⟨{ s.writer with fds := s.writer.fds.insert tid opened },
        s.disk.install opened (.file path)⟩, some opened)
    else none

/-- The `write_all` to stdout, after the file took `cut`. -/
def print (s : TraceFiles) (a : LineAnswers) (data cut : Bytes) : Option (TraceFiles × Fate) :=
  (s.disk.writeAll stdoutFileno a.stdout a.fuel data).map fun (k, w) =>
    ({ s with disk := k }, if w.outcome = .ok then .printed cut else .lost cut w.accepted)

def writeLine (s : TraceFiles) (tid : Pid) (line : String) (a : LineAnswers) :
    Option (TraceFiles × Fate) :=
  let data := lineBytes line
  match s.writer.output with
  | .stdout => s.print a data []
  | .file =>
    (s.fdForTid tid a.opened).bind fun (s, fd) =>
      match fd with
      | some fd =>
        (s.disk.writeAll fd a.file a.fuel data).bind fun (k, w) =>
          let s := { s with disk := k }
          if w.outcome = .ok then some (s, .filed) else s.print a data w.accepted
      | none => s.print a data []

def closeTid (s : TraceFiles) (tid : Pid) : TraceFiles :=
  match s.writer.fds.lookup tid with
  | some fd => ⟨{ s.writer with fds := s.writer.fds.erase tid }, s.disk.close fd⟩
  | none => s

/-- The drop of the `FusedWriter`. -/
def drop (s : TraceFiles) : TraceFiles :=
  ⟨{ s.writer with fds := ∅ }, s.writer.fds.entries.foldl (fun k e => k.close e.2) s.disk⟩

end TraceFiles

/-- `openOther` and `closeOther` are the descriptors the tracer uses for other files. -/
inductive FileLabel where
  | writeLine (tid : Pid) (line : String) (a : LineAnswers)
  | closeTid (tid : Pid)
  | drop
  | openOther (fd : I32)
  | closeOther (fd : I32)

structure LineEvent where
  tid : Pid
  line : String
  fate : Fate

namespace TraceFiles

def stepObs (s : TraceFiles) : FileLabel → Option (TraceFiles × List LineEvent)
  | .writeLine tid line a => (s.writeLine tid line a).map fun (s, fate) => (s, [⟨tid, line, fate⟩])
  | .closeTid tid => some (s.closeTid tid, [])
  | .drop => some (s.drop, [])
  | .openOther fd =>
    if 0 ≤ fd.toInt ∧ s.disk.fds fd = none then
      some ({ s with disk := s.disk.install fd .other }, [])
    else none
  | .closeOther fd =>
    if s.disk.fds fd = some .other then some ({ s with disk := s.disk.close fd }, []) else none

def step (s : TraceFiles) (l : FileLabel) : Option TraceFiles := (s.stepObs l).map Prod.fst

def events (s : TraceFiles) (l : FileLabel) (_ : TraceFiles) : List LineEvent :=
  ((s.stepObs l).map Prod.snd).getD []

/-- The writer is new, stdout is open, and no trace file is. -/
structure Start (cfg : Config) (k : Disk) (s : TraceFiles) : Prop where
  writer : s.writer = .fromConfig cfg
  disk : s.disk = k
  stdout : k.fds stdoutFileno = some .stdout
  fresh : ∀ fd path, k.fds fd ≠ some (.file path)

end TraceFiles

def traceFiles (cfg : Config) (k : Disk) : System TraceFiles FileLabel :=
  .ofPartial (TraceFiles.Start cfg k) TraceFiles.step

/-! ### Fates -/

/-- What the file of the line has of it. -/
def LineEvent.filed (e : LineEvent) : Bytes :=
  match e.fate with
  | .filed => lineBytes e.line
  | .printed cut | .lost cut _ => cut

/-- What stdout has of it. -/
def LineEvent.printed (e : LineEvent) : Bytes :=
  match e.fate with
  | .filed => []
  | .printed _ => lineBytes e.line
  | .lost _ part => part

/-- A proper part of the line, from its start. -/
def CutOf (line : String) (cut : Bytes) : Prop := cut <+: lineBytes line ∧ cut ≠ lineBytes line

/-- The line is whole in one place, unless stdout failed. -/
def LineEvent.Whole (e : LineEvent) : Prop :=
  match e.fate with
  | .filed => True
  | .printed cut => CutOf e.line cut
  | .lost cut part => CutOf e.line cut ∧ CutOf e.line part

theorem lineBytes_ne_nil (line : String) : lineBytes line ≠ [] :=
  List.append_ne_nil_of_right_ne_nil _ (List.cons_ne_nil _ _)

theorem cutOf_nil (line : String) : CutOf line [] := ⟨List.nil_prefix, (lineBytes_ne_nil line).symm⟩

theorem tidPath_injective {basePath : String} {tid tid' : Pid}
    (h : tidPath basePath tid = tidPath basePath tid') : tid = tid' := by
  have hlist := congrArg String.toList h
  simp only [tidPath, String.toList_append] at hlist
  have hdigits := List.append_cancel_left hlist
  exact BitVec.eq_of_toInt_eq (toString_int_injective (String.toList_inj.mp hdigits))

/-! ### Descriptors -/

namespace TraceFiles

/-- The trace files that are open are those of the writer's map. -/
structure Tidy (s : TraceFiles) : Prop where
  stdout : s.disk.fds stdoutFileno = some .stdout
  held : ∀ tid fd, s.writer.fds.lookup tid = some fd →
    s.disk.fds fd = some (.file (tidPath s.writer.basePath tid))
  owned : ∀ fd path, s.disk.fds fd = some (.file path) →
    ∃ tid, s.writer.fds.lookup tid = some fd ∧ path = tidPath s.writer.basePath tid

theorem Tidy.lookup_inj {s : TraceFiles} (h : s.Tidy) {tid tid' : Pid} {fd : I32}
    (ht : s.writer.fds.lookup tid = some fd) (ht' : s.writer.fds.lookup tid' = some fd) : tid = tid' := by
  have hfile := (h.held tid fd ht).symm.trans (h.held tid' fd ht')
  exact tidPath_injective (Target.file.inj (Option.some.inj hfile))

/-- What is open stays open when bytes are written. -/
theorem Tidy.append {s : TraceFiles} (h : s.Tidy) (fd : I32) (bytes : Bytes) :
    ({ s with disk := s.disk.append fd bytes } : TraceFiles).Tidy := by
  have hfds : (s.disk.append fd bytes).fds = s.disk.fds := by
    unfold Disk.append
    split <;> rfl
  constructor
  · rw [hfds]
    exact h.stdout
  · rw [hfds]
    exact h.held
  · rw [hfds]
    exact h.owned

theorem Tidy.opened {s : TraceFiles} (h : s.Tidy) {tid : Pid} {fd : I32}
    (hnew : s.writer.fds.lookup tid = none) (hfree : s.disk.fds fd = none) :
    (⟨{ s.writer with fds := s.writer.fds.insert tid fd },
      s.disk.install fd (.file (tidPath s.writer.basePath tid))⟩ : TraceFiles).Tidy := by
  have hne : ∀ fd' target, s.disk.fds fd' = some target → fd' ≠ fd := by
    rintro fd' target hfd' rfl
    rw [hfree] at hfd'
    cases hfd'
  constructor
  · rw [Disk.install_of_ne _ (hne _ _ h.stdout)]
    exact h.stdout
  · intro u fd' hu
    by_cases hut : u = tid
    · subst hut
      rw [AList.lookup_insert] at hu
      obtain rfl := Option.some.inj hu
      rw [Disk.install_self]
    · rw [AList.lookup_insert_ne hut] at hu
      have hheld := h.held u fd' hu
      rw [Disk.install_of_ne _ (hne _ _ hheld)]
      exact hheld
  · intro fd' path hfd'
    by_cases hf : fd' = fd
    · subst hf
      rw [Disk.install_self] at hfd'
      exact ⟨tid, AList.lookup_insert _, (Target.file.inj (Option.some.inj hfd')).symm⟩
    · rw [Disk.install_of_ne _ hf] at hfd'
      obtain ⟨u, hu, hpath⟩ := h.owned fd' path hfd'
      have hut : u ≠ tid := by
        rintro rfl
        rw [hnew] at hu
        cases hu
      exact ⟨u, by rwa [AList.lookup_insert_ne hut], hpath⟩

theorem Tidy.closeTid {s : TraceFiles} (h : s.Tidy) (tid : Pid) : (s.closeTid tid).Tidy := by
  unfold TraceFiles.closeTid
  cases ht : s.writer.fds.lookup tid with
  | none => exact h
  | some fd =>
    have hheld := h.held tid fd ht
    constructor
    · have hne : stdoutFileno ≠ fd := by
        rintro rfl
        rw [h.stdout] at hheld
        cases hheld
      rw [Disk.close_of_ne _ hne]
      exact h.stdout
    · intro u fd' hu
      by_cases hut : u = tid
      · subst hut
        rw [AList.lookup_erase] at hu
        cases hu
      · rw [AList.lookup_erase_ne hut] at hu
        have hne : fd' ≠ fd := by
          rintro rfl
          exact hut (h.lookup_inj hu ht)
        rw [Disk.close_of_ne _ hne]
        exact h.held u fd' hu
    · intro fd' path hfd'
      have hne : fd' ≠ fd := by
        rintro rfl
        rw [Disk.close_self] at hfd'
        cases hfd'
      rw [Disk.close_of_ne _ hne] at hfd'
      obtain ⟨u, hu, hpath⟩ := h.owned fd' path hfd'
      have hut : u ≠ tid := by
        rintro rfl
        exact hne (Option.some.inj (hu.symm.trans ht))
      exact ⟨u, by rwa [AList.lookup_erase_ne hut], hpath⟩

/-- The same trace files and the same stdout are open. -/
theorem Tidy.others {s : TraceFiles} (h : s.Tidy) {k : Disk}
    (hk : ∀ fd target, target ≠ .other → (k.fds fd = some target ↔ s.disk.fds fd = some target)) :
    ({ s with disk := k } : TraceFiles).Tidy where
  stdout := (hk _ _ (by decide)).mpr h.stdout
  held tid fd hfd := (hk _ _ (fun he => by cases he)).mpr (h.held tid fd hfd)
  owned fd path hfd := h.owned fd path ((hk _ _ (fun he => by cases he)).mp hfd)

theorem Tidy.installOther {s : TraceFiles} (h : s.Tidy) {fd : I32} (hfree : s.disk.fds fd = none) :
    ({ s with disk := s.disk.install fd .other } : TraceFiles).Tidy := by
  refine h.others fun fd' target hne => ?_
  by_cases hf : fd' = fd
  · subst hf
    rw [Disk.install_self, hfree]
    exact iff_of_false (fun he => hne (Option.some.inj he).symm) fun he => by cases he
  · rw [Disk.install_of_ne _ hf]

theorem Tidy.closeOther {s : TraceFiles} (h : s.Tidy) {fd : I32} (hopen : s.disk.fds fd = some .other) :
    ({ s with disk := s.disk.close fd } : TraceFiles).Tidy := by
  refine h.others fun fd' target hne => ?_
  by_cases hf : fd' = fd
  · subst hf
    rw [Disk.close_self, hopen]
    exact iff_of_false (fun he => by cases he) fun he => hne (Option.some.inj he).symm
  · rw [Disk.close_of_ne _ hf]

theorem close_all_fds (es : List (Sigma fun _ : Pid => I32)) (k : Disk) (fd : I32) :
    (es.foldl (fun k e => k.close e.2) k).fds fd =
      if ∃ e ∈ es, e.2 = fd then none else k.fds fd := by
  induction es generalizing k with
  | nil => simp
  | cons e es ih =>
    rw [List.foldl_cons, ih]
    by_cases hrest : ∃ e' ∈ es, e'.2 = fd
    · obtain ⟨e', he', hfd⟩ := hrest
      rw [if_pos ⟨e', he', hfd⟩, if_pos ⟨e', List.mem_cons_of_mem _ he', hfd⟩]
    · rw [if_neg hrest]
      by_cases hfd : e.2 = fd
      · rw [if_pos ⟨e, List.mem_cons_self, hfd⟩, hfd, Disk.close_self]
      · have hnone : ¬∃ e' ∈ e :: es, e'.2 = fd := by
          rintro ⟨e', he', hfd'⟩
          rcases List.mem_cons.mp he' with rfl | he'
          · exact hfd hfd'
          · exact hrest ⟨e', he', hfd'⟩
        rw [if_neg hnone, Disk.close_of_ne _ fun he => hfd he.symm]

theorem close_all_contents (es : List (Sigma fun _ : Pid => I32)) (k : Disk) :
    (es.foldl (fun k e => k.close e.2) k).files = k.files ∧
      (es.foldl (fun k e => k.close e.2) k).stdout = k.stdout := by
  induction es generalizing k with
  | nil => exact ⟨rfl, rfl⟩
  | cons e es ih => exact ih (k.close e.2)

/-- A drop closes the descriptors of the map and no others. -/
theorem drop_fds (s : TraceFiles) (fd : I32) :
    s.drop.disk.fds fd = if ∃ tid, s.writer.fds.lookup tid = some fd then none else s.disk.fds fd := by
  have hiff : (∃ e ∈ s.writer.fds.entries, e.2 = fd) ↔ ∃ tid, s.writer.fds.lookup tid = some fd := by
    constructor
    · rintro ⟨⟨tid, fd'⟩, he, rfl⟩
      exact ⟨tid, AList.mem_lookup_iff.mpr he⟩
    · rintro ⟨tid, hfd⟩
      exact ⟨⟨tid, fd⟩, AList.mem_lookup_iff.mp hfd, rfl⟩
  rw [drop, close_all_fds]
  simp only [hiff]

theorem Tidy.drop {s : TraceFiles} (h : s.Tidy) : s.drop.Tidy := by
  constructor
  · rw [drop_fds, if_neg]
    · exact h.stdout
    · rintro ⟨tid, hfd⟩
      have hfile := h.held tid _ hfd
      rw [h.stdout] at hfile
      cases hfile
  · intro tid fd hfd
    have hnone : (∅ : AList fun _ : Pid => I32).lookup tid = none := AList.lookup_empty tid
    exact absurd (hnone.symm.trans hfd) fun he => by cases he
  · intro fd path hfd
    rw [drop_fds] at hfd
    split_ifs at hfd with hex
    obtain ⟨tid, htid, -⟩ := h.owned fd path hfd
    exact absurd ⟨tid, htid⟩ hex

/-! ### Contents -/

/-- Descriptors and contents after the events of a run. -/
structure Kept (cfg : Config) (k₀ : Disk) (s : TraceFiles) (w : List LineEvent) : Prop where
  tidy : s.Tidy
  basePath : s.writer.basePath = cfg.path
  whole : ∀ e ∈ w, e.Whole
  stdout : s.disk.stdout = k₀.stdout ++ w.flatMap LineEvent.printed
  files : ∀ tid, s.disk.files (tidPath cfg.path tid) =
    k₀.files (tidPath cfg.path tid) ++ (w.filter (·.tid = tid)).flatMap LineEvent.filed
  others : ∀ path, (∀ tid, path ≠ tidPath cfg.path tid) → s.disk.files path = k₀.files path

/-- A step of the map and the descriptors that writes nothing. -/
theorem Kept.silent {cfg : Config} {k₀ : Disk} {s s' : TraceFiles} {w : List LineEvent}
    (h : s.Kept cfg k₀ w) (htidy : s'.Tidy) (hbase : s'.writer.basePath = s.writer.basePath)
    (hfiles : s'.disk.files = s.disk.files) (hstdout : s'.disk.stdout = s.disk.stdout) :
    s'.Kept cfg k₀ w where
  tidy := htidy
  basePath := hbase.trans h.basePath
  whole := h.whole
  stdout := hstdout.trans h.stdout
  files tid := (congrFun hfiles _).trans (h.files tid)
  others path hpath := (congrFun hfiles _).trans (h.others path hpath)

/-- One line: its file and stdout get what the event says. -/
theorem Kept.line {cfg : Config} {k₀ : Disk} {s s' : TraceFiles} {w : List LineEvent}
    (h : s.Kept cfg k₀ w) {e : LineEvent} (htidy : s'.Tidy)
    (hbase : s'.writer.basePath = s.writer.basePath) (hwhole : e.Whole)
    (hfiles : s'.disk.files = Function.update s.disk.files (tidPath cfg.path e.tid)
      (s.disk.files (tidPath cfg.path e.tid) ++ e.filed))
    (hstdout : s'.disk.stdout = s.disk.stdout ++ e.printed) : s'.Kept cfg k₀ (w ++ [e]) where
  tidy := htidy
  basePath := hbase.trans h.basePath
  whole := by
    intro e' he'
    rcases List.mem_append.mp he' with he' | he'
    · exact h.whole e' he'
    · rw [List.mem_singleton.mp he']
      exact hwhole
  stdout := by
    rw [hstdout, h.stdout, List.flatMap_append, List.flatMap_singleton, List.append_assoc]
  files := by
    intro tid
    rw [hfiles, List.filter_append, List.flatMap_append]
    by_cases ht : e.tid = tid
    · subst ht
      rw [Function.update_self, h.files, List.filter_cons_of_pos (by simp), List.filter_nil,
        List.flatMap_singleton, List.append_assoc]
    · have hpath : tidPath cfg.path tid ≠ tidPath cfg.path e.tid := fun he =>
        ht (tidPath_injective he).symm
      rw [Function.update_of_ne hpath, h.files, List.filter_cons_of_neg (by simpa using ht)]
      exact congrArg _ (List.append_nil _).symm
  others := by
    intro path hpath
    rw [hfiles, Function.update_of_ne (hpath e.tid)]
    exact h.others path hpath

/-! ### One line -/

theorem writeAll_cases {k k' : Disk} {fd : I32} {results : ℕ → WriteResult} {fuel : ℕ} {data : Bytes}
    {out : Written} (h : k.writeAll fd results fuel data = some (k', out)) :
    k' = k.append fd out.accepted ∧ Faithful data out := by
  obtain ⟨out', hout, hif⟩ := Option.bind_eq_some_iff.mp h
  obtain ⟨hpanic, he⟩ := Option.ite_none_left_eq_some.mp hif
  obtain ⟨rfl, rfl⟩ := Prod.mk.inj (Option.some.inj he)
  exact ⟨rfl, writeLoop_faithful fuel 0 hout hpanic⟩

theorem append_stdout {k : Disk} (h : k.fds stdoutFileno = some .stdout) (bytes : Bytes) :
    k.append stdoutFileno bytes = { k with stdout := k.stdout ++ bytes } := by
  rw [Disk.append, h]

theorem append_file {k : Disk} {fd : I32} {path : String} (h : k.fds fd = some (.file path))
    (bytes : Bytes) : k.append fd bytes =
      { k with files := Function.update k.files path (k.files path ++ bytes) } := by
  rw [Disk.append, h]

/-- The fallback to stdout ends the line. -/
theorem print_cases {s s' : TraceFiles} {a : LineAnswers} {tid : Pid} {line : String} {cut : Bytes}
    {fate : Fate} (h : s.Tidy) (hcut : CutOf line cut)
    (hs : s.print a (lineBytes line) cut = some (s', fate)) :
    s'.Tidy ∧ s'.writer = s.writer ∧ s'.disk.files = s.disk.files ∧
      (⟨tid, line, fate⟩ : LineEvent).Whole ∧ (⟨tid, line, fate⟩ : LineEvent).filed = cut ∧
      s'.disk.stdout = s.disk.stdout ++ (⟨tid, line, fate⟩ : LineEvent).printed := by
  obtain ⟨⟨k, out⟩, hwrite, he⟩ := Option.map_eq_some_iff.mp hs
  obtain ⟨rfl, rfl⟩ := Prod.mk.inj he
  obtain ⟨rfl, hfaithful⟩ := writeAll_cases hwrite
  refine ⟨h.append _ _, rfl, ?_, ?_⟩
  · rw [append_stdout h.stdout]
  · rw [append_stdout h.stdout]
    rcases hfaithful with ⟨hok, hall⟩ | ⟨herr, hpart⟩
    · rw [if_pos hok, hall]
      exact ⟨hcut, rfl, rfl⟩
    · rw [if_neg (by rw [herr]; decide)]
      exact ⟨⟨hcut, hpart⟩, rfl, rfl⟩

theorem fdForTid_cases {s s' : TraceFiles} {tid : Pid} {opened : I32} {fd : Option I32} (h : s.Tidy)
    (hs : s.fdForTid tid opened = some (s', fd)) :
    s'.Tidy ∧ s'.writer.basePath = s.writer.basePath ∧ s'.disk.files = s.disk.files ∧
      s'.disk.stdout = s.disk.stdout ∧
      ∀ fd', fd = some fd' → s'.disk.fds fd' = some (.file (tidPath s.writer.basePath tid)) := by
  unfold fdForTid at hs
  cases ht : s.writer.fds.lookup tid with
  | some fd' =>
    rw [ht] at hs
    obtain ⟨rfl, rfl⟩ := Prod.mk.inj (Option.some.inj hs)
    refine ⟨h, rfl, rfl, rfl, fun fd'' he => ?_⟩
    rw [← Option.some.inj he]
    exact h.held tid fd' ht
  | none =>
    rw [ht] at hs
    dsimp only at hs
    split_ifs at hs with hnul hneg hfree
    · obtain ⟨rfl, rfl⟩ := Prod.mk.inj (Option.some.inj hs)
      exact ⟨h, rfl, rfl, rfl, fun fd' he => by cases he⟩
    · obtain ⟨rfl, rfl⟩ := Prod.mk.inj (Option.some.inj hs)
      exact ⟨h, rfl, rfl, rfl, fun fd' he => by cases he⟩
    · obtain ⟨rfl, rfl⟩ := Prod.mk.inj (Option.some.inj hs)
      refine ⟨h.opened ht hfree, rfl, rfl, rfl, fun fd' he => ?_⟩
      rw [← Option.some.inj he]
      exact Function.update_self _ _ _

theorem Kept.writeLine {cfg : Config} {k₀ : Disk} {s s' : TraceFiles} {w : List LineEvent}
    (h : s.Kept cfg k₀ w) {tid : Pid} {line : String} {a : LineAnswers} {fate : Fate}
    (hs : s.writeLine tid line a = some (s', fate)) : s'.Kept cfg k₀ (w ++ [⟨tid, line, fate⟩]) := by
  -- a line of which the file took nothing
  have hprint : ∀ s₁ : TraceFiles, s₁.Kept cfg k₀ w → s₁.print a (lineBytes line) [] = some (s', fate) →
      s'.Kept cfg k₀ (w ++ [⟨tid, line, fate⟩]) := by
    intro s₁ h₁ hs₁
    obtain ⟨htidy, hwriter, hfiles, hwhole, hfiled, hstdout⟩ := print_cases h₁.tidy (cutOf_nil line) hs₁
    refine h₁.line htidy (congrArg _ hwriter) hwhole ?_ hstdout
    rw [hfiled, List.append_nil, Function.update_eq_self, hfiles]
  unfold TraceFiles.writeLine at hs
  dsimp only at hs
  cases hout : s.writer.output with
  | stdout =>
    rw [hout] at hs
    exact hprint s h hs
  | file =>
    rw [hout] at hs
    obtain ⟨⟨s₁, fd⟩, hfd, hrest⟩ := Option.bind_eq_some_iff.mp hs
    obtain ⟨htidy, hbase, hfiles, hstdout, hfile⟩ := fdForTid_cases h.tidy hfd
    have h₁ : s₁.Kept cfg k₀ w := h.silent htidy hbase hfiles hstdout
    cases fd with
    | none => exact hprint s₁ h₁ hrest
    | some fd =>
      have hpath := hfile fd rfl
      rw [h.basePath] at hpath
      obtain ⟨⟨k, out⟩, hwrite, hrest⟩ := Option.bind_eq_some_iff.mp hrest
      obtain ⟨rfl, hfaithful⟩ := writeAll_cases hwrite
      have htidy' := h₁.tidy.append fd out.accepted
      have hdisk := append_file hpath out.accepted
      dsimp only at hrest
      rcases hfaithful with ⟨hok, hall⟩ | ⟨herr, hpart⟩
      · rw [if_pos hok] at hrest
        obtain ⟨rfl, rfl⟩ := Prod.mk.inj (Option.some.inj hrest)
        refine h₁.line htidy' rfl trivial ?_ ?_
        · rw [hdisk, hall]
          rfl
        · rw [hdisk]
          exact (List.append_nil _).symm
      · rw [if_neg (by rw [herr]; decide)] at hrest
        obtain ⟨htidy₂, hwriter, hfiles₂, hwhole, hfiled, hstdout₂⟩ := print_cases htidy' hpart hrest
        refine h₁.line htidy₂ (congrArg FusedWriter.basePath hwriter) hwhole ?_ ?_
        · rw [hfiles₂, hdisk, hfiled]
        · rw [hstdout₂, hdisk]

/-! ### Runs -/

theorem Kept.step {cfg : Config} {k₀ : Disk} {s s' : TraceFiles} {w : List LineEvent} {l : FileLabel}
    (h : s.Kept cfg k₀ w) (hs : s.step l = some s') : s'.Kept cfg k₀ (w ++ s.events l s') := by
  obtain ⟨⟨s₁, es⟩, hobs, rfl⟩ := Option.map_eq_some_iff.mp hs
  have hevents : s.events l s₁ = es := by rw [events, hobs]; rfl
  rw [hevents]
  cases l with
  | writeLine tid line a =>
    obtain ⟨⟨s₂, fate⟩, hwrite, he⟩ := Option.map_eq_some_iff.mp hobs
    obtain ⟨rfl, rfl⟩ := Prod.mk.inj he
    exact h.writeLine hwrite
  | closeTid tid =>
    obtain ⟨rfl, rfl⟩ := Prod.mk.inj (Option.some.inj hobs)
    rw [List.append_nil]
    have hclose : (s.closeTid tid).writer.basePath = s.writer.basePath ∧
        (s.closeTid tid).disk.files = s.disk.files ∧ (s.closeTid tid).disk.stdout = s.disk.stdout := by
      unfold TraceFiles.closeTid
      split <;> exact ⟨rfl, rfl, rfl⟩
    exact h.silent (h.tidy.closeTid tid) hclose.1 hclose.2.1 hclose.2.2
  | drop =>
    obtain ⟨rfl, rfl⟩ := Prod.mk.inj (Option.some.inj hobs)
    rw [List.append_nil]
    obtain ⟨hfiles, hstdout⟩ := close_all_contents s.writer.fds.entries s.disk
    exact h.silent h.tidy.drop rfl hfiles hstdout
  | openOther fd =>
    obtain ⟨hfree, he⟩ := Option.ite_none_right_eq_some.mp hobs
    obtain ⟨rfl, rfl⟩ := Prod.mk.inj (Option.some.inj he)
    rw [List.append_nil]
    exact h.silent (h.tidy.installOther hfree.2) rfl rfl rfl
  | closeOther fd =>
    obtain ⟨hother, he⟩ := Option.ite_none_right_eq_some.mp hobs
    obtain ⟨rfl, rfl⟩ := Prod.mk.inj (Option.some.inj he)
    rw [List.append_nil]
    exact h.silent (h.tidy.closeOther hother) rfl rfl rfl

end TraceFiles

open TraceFiles in
theorem trace_files_kept {cfg : Config} {k : Disk} {s : TraceFiles} {w : List LineEvent}
    (h : (traceFiles cfg k).Trace (fun _ _ => True) events s w) :
    s.Kept cfg k w ∧ ∀ fd path, s.drop.disk.fds fd ≠ some (.file path) := by
  have hkept : s.Kept cfg k w := by
    refine h.history (fun s hs => ?_) fun s w l s' hinv _ hst => hinv.step hst
    obtain ⟨hwriter, rfl, hstdout, hfresh⟩ := hs
    refine ⟨⟨hstdout, ?_, fun fd path hfd => absurd hfd (hfresh fd path)⟩, ?_, ?_, ?_, ?_, fun _ _ => rfl⟩
    · intro tid fd hfd
      rw [hwriter] at hfd
      exact absurd ((AList.lookup_empty tid).symm.trans hfd) fun he => by cases he
    · rw [hwriter]
      rfl
    · exact fun e he => absurd he List.not_mem_nil
    · exact (List.append_nil _).symm
    · exact fun tid => (List.append_nil _).symm
  refine ⟨hkept, fun fd path hfd => ?_⟩
  obtain ⟨tid, htid, -⟩ := hkept.tidy.drop.owned fd path hfd
  exact absurd ((AList.lookup_empty tid).symm.trans htid) fun he => by cases he

def emptyDisk : Disk := ⟨fun fd => if fd = stdoutFileno then some .stdout else none, fun _ => [], []⟩

theorem emptyDisk_fresh (fd : I32) (path : String) : emptyDisk.fds fd ≠ some (.file path) := by
  unfold emptyDisk
  dsimp only
  split_ifs
  · exact fun he => by cases he
  · exact fun he => by cases he

def takesTwo (_ : ℕ) : WriteResult := ⟨2#64, 0#32⟩

/-- One byte is taken, then there is no space left. -/
def takesOne (n : ℕ) : WriteResult := if n = 0 then ⟨1#64, 0#32⟩ else ⟨-1#64, 28#32⟩

def twoLines : List FileLabel :=
  [.writeLine 100 "a" ⟨3#32, takesTwo, takesTwo, 2⟩, .writeLine 100 "b" ⟨3#32, takesOne, takesTwo, 3⟩,
    .closeTid 100]

open TraceFiles in
theorem trace_files_kept_two : ∃ s : TraceFiles, s.Kept (.fromLookup fun _ => none) emptyDisk
    [⟨100, "a", .filed⟩, ⟨100, "b", .printed [98#8]⟩] ∧
    ∀ fd path, s.drop.disk.fds fd ≠ some (.file path) := by
  have hstart : TraceFiles.Start (.fromLookup fun _ => none) emptyDisk
      ⟨.fromConfig (.fromLookup fun _ => none), emptyDisk⟩ := ⟨rfl, rfl, by decide, emptyDisk_fresh⟩
  exact ⟨_, trace_files_kept (System.Trace.of_foldlM (g := step) (p := (_, [])) (q := (_, _))
    (fun _ _ _ hs => ⟨trivial, hs⟩) (.start hstart) (show twoLines.foldlM _ _ = some _ from rfl))⟩

end CudaTrace.Ptrace
