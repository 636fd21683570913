import CudaTrace.Base.Fields
import CudaTrace.Base.Quoting
import CudaTrace.Base.ReadForest
import CudaTrace.Hook.CallGraph
import CudaTrace.Hook.MergedTrace

/-!
# Reading a trace back (graph.rs, line_meta.rs)

The lines of a trace give back the calls that it tells of, with their arguments, results and
times, and the thread of each line if the lines have thread ids.
-/

namespace CudaTrace.Hook
open CudaTrace.Base CudaTrace.Boot CudaTrace.Ptrace

/-! ### The prefix of a line -/

def readTid (cfg : Config) (line : List Char) : Option Pid × List Char :=
  if cfg.leftMeta.includeTid then
    let (number, rest) := cutFirst ' ' (line.drop 4)
    (some (BitVec.ofInt 32 (readInt number)), rest)
  else (none, line)

def readTimestamp (cfg : Config) (line : List Char) : ℕ × List Char :=
  if cfg.leftMeta.includeTimestamp then
    let (number, rest) := cutFirst ' ' (line.drop 3)
    (readNat number.dropLast.dropLast, rest)
  else (0, line)

/-- The thread, the time and the rest of a line. -/
def readMeta (cfg : Config) (line : List Char) : Option Pid × ℕ × List Char :=
  let (tid, rest) := readTid cfg line
  let (timestamp, rest) := readTimestamp cfg rest
  (tid, timestamp, if cfg.leftMeta.includeTid || cfg.leftMeta.includeTimestamp then rest.drop 4 else rest)

def unitLetter : TimeUnit → Char
  | .ns => 'n'
  | .us => 'u'

theorem prependLeftMeta_toList (cfg : Config) (line : String) (tid : Pid) (timestamp : ℕ) :
    (prependLeftMeta cfg line tid timestamp).toList =
      (if cfg.leftMeta.includeTid then "tid=".toList ++ (toString tid.toInt).toList ++ [' '] else []) ++
      (if cfg.leftMeta.includeTimestamp then
        "ts=".toList ++ (toString timestamp).toList ++ [unitLetter cfg.timeUnit, 's', ' '] else []) ++
      (if cfg.leftMeta.includeTid || cfg.leftMeta.includeTimestamp then " |  ".toList else []) ++
      line.toList := by
  have hne : ∀ s : String, ("tid=" ++ s).isEmpty = false ∧ ("ts=" ++ s).isEmpty = false := by
    intro s
    simp [Bool.eq_false_iff]
  unfold prependLeftMeta formatLeftMetaPrefix unitLetter
  cases cfg.leftMeta with
  | off => simp [LeftMetaMode.includeTid, LeftMetaMode.includeTimestamp]
  | tid => simp [LeftMetaMode.includeTid, LeftMetaMode.includeTimestamp, hne]
  | timestamp =>
    cases cfg.timeUnit with
    | ns => simp [LeftMetaMode.includeTid, LeftMetaMode.includeTimestamp, String.append_assoc, hne]
    | us => simp [LeftMetaMode.includeTid, LeftMetaMode.includeTimestamp, String.append_assoc, hne]
  | tidTimestamp =>
    cases cfg.timeUnit with
    | ns => simp [LeftMetaMode.includeTid, LeftMetaMode.includeTimestamp, String.append_assoc, hne]
    | us => simp [LeftMetaMode.includeTid, LeftMetaMode.includeTimestamp, String.append_assoc, hne]

/-- A time that is not printed counts as zero. -/
def shownTs (cfg : Config) (timestamp : ℕ) : ℕ := if cfg.leftMeta.includeTimestamp then timestamp else 0

theorem readTid_append (cfg : Config) (tid : Pid) (rest : List Char) :
    readTid cfg ((if cfg.leftMeta.includeTid then "tid=".toList ++ (toString tid.toInt).toList ++ [' '] else []) ++
      rest) = (if cfg.leftMeta.includeTid then some tid else none, rest) := by
  unfold readTid
  cases cfg.leftMeta.includeTid with
  | false => rfl
  | true =>
    have hline : (("tid=".toList ++ (toString tid.toInt).toList ++ [' ']) ++ rest).drop 4 =
        (toString tid.toInt).toList ++ ' ' :: rest := by
      simp
    simp only [if_true]
    rw [hline, cutFirst_append (notMem_toString_int (by decide) (by decide) _), readInt_toString,
      BitVec.ofInt_toInt]

theorem readTimestamp_append (cfg : Config) (timestamp : ℕ) (rest : List Char) :
    readTimestamp cfg ((if cfg.leftMeta.includeTimestamp then
        "ts=".toList ++ (toString timestamp).toList ++ [unitLetter cfg.timeUnit, 's', ' '] else []) ++ rest) =
      (shownTs cfg timestamp, rest) := by
  unfold readTimestamp shownTs
  cases cfg.leftMeta.includeTimestamp with
  | false => rfl
  | true =>
    have hblank : ' ' ∉ (toString timestamp).toList ++ [unitLetter cfg.timeUnit, 's'] := by
      rw [List.mem_append, not_or]
      refine ⟨notMem_repr (by decide) _, ?_⟩
      cases cfg.timeUnit with
      | ns => decide
      | us => decide
    have hline : (("ts=".toList ++ (toString timestamp).toList ++ [unitLetter cfg.timeUnit, 's', ' ']) ++
        rest).drop 3 = ((toString timestamp).toList ++ [unitLetter cfg.timeUnit, 's']) ++ ' ' :: rest := by
      simp
    have hnumber : ((toString timestamp).toList ++ [unitLetter cfg.timeUnit, 's']).dropLast.dropLast =
        (toString timestamp).toList := by
      simp
    have hread : readNat (toString timestamp).toList = timestamp := readNat_repr timestamp
    simp only [if_true]
    rw [hline, cutFirst_append hblank, hnumber, hread]

theorem readMeta_prepend (cfg : Config) (line : String) (tid : Pid) (timestamp : ℕ) :
    readMeta cfg (prependLeftMeta cfg line tid timestamp).toList =
      (if cfg.leftMeta.includeTid then some tid else none, shownTs cfg timestamp, line.toList) := by
  unfold readMeta
  rw [prependLeftMeta_toList, List.append_assoc, List.append_assoc, readTid_append]
  dsimp only
  rw [readTimestamp_append]
  cases cfg.leftMeta.includeTid || cfg.leftMeta.includeTimestamp with
  | false => rfl
  | true =>
    have hdrop : (" |  ".toList ++ line.toList).drop 4 = line.toList := by simp
    simp only [if_true]
    rw [hdrop]

/-! ### The shape of a line -/

/-- The result of ` = ret  /* n unit */`. -/
def readReturn (tail : List Char) : SpanResult :=
  let (ret, comment) := cutFirst '/' (tail.drop 3)
  let (value, unit) := cutFirst ' ' (comment.drop 2)
  ⟨String.ofList ret.dropLast.dropLast, readNat value, String.ofList (unit.take 2)⟩

/-- A line behind its prefix: the opening or the closing of a call, or anything else. -/
inductive LineShape where
  | opening (func args : List Char)
  | closing (r : SpanResult)
  | other (body : List Char)

def lineShape (body : List Char) : LineShape :=
  match body.dropWhile (· = '\t') with
  | '}' :: tail => .closing (readReturn tail)
  | call =>
    let (front, tail) := cutLast ')' call
    if tail = [' ', '{'] then
      let (func, args) := cutFirst '(' front
      .opening func args
    else .other call

/-- The text of a result, such as a number. -/
structure PlainReturn (ret : String) : Prop where
  bracket : ')' ∉ ret.toList
  slash : '/' ∉ ret.toList
  noBreak : NoBreak ret

/-- A line that is not taken for a closing behind its tabs. -/
structure PlainStart (s : List Char) : Prop where
  tab : s.head? ≠ some '\t'
  brace : s.head? ≠ some '}'

structure PlainHead (func args : String) : Prop where
  bracket : '(' ∉ func.toList
  start : PlainStart func.toList
  func : NoBreak func
  args : NoBreak args

/-- ` = ret  /* n unit */`. -/
def returnText (ret : String) (elapsed : ℕ × String) : List Char :=
  " = ".toList ++ ret.toList ++ "  /* ".toList ++ (toString elapsed.1).toList ++ " ".toList ++
    elapsed.2.toList ++ " */".toList

/-- The unit of a duration. -/
def PlainUnit (unit : String) : Prop := unit = "ns" ∨ unit = "us"

theorem plainUnit_durationForConfig (cfg : Config) (duration : ℕ) :
    PlainUnit (durationForConfig cfg duration).2 := by
  unfold durationForConfig
  cases cfg.timeUnit with
  | ns => exact Or.inl rfl
  | us => exact Or.inr rfl

theorem readReturn_spec {ret : String} (hret : PlainReturn ret) {elapsed : ℕ × String}
    (hunit : PlainUnit elapsed.2) : readReturn (returnText ret elapsed) = ⟨ret, elapsed⟩ := by
  obtain ⟨n, unit⟩ := elapsed
  have hslash : '/' ∉ ret.toList ++ [' ', ' '] := by
    rw [List.mem_append, not_or]
    exact ⟨hret.slash, by decide⟩
  have htail : (returnText ret (n, unit)).drop 3 = (ret.toList ++ [' ', ' ']) ++
        '/' :: ("* ".toList ++ ((toString n).toList ++ ' ' :: (unit.toList ++ " */".toList))) := by
    simp [returnText]
  have hcomment : ("* ".toList ++ ((toString n).toList ++ ' ' :: (unit.toList ++ " */".toList))).drop 2 =
      (toString n).toList ++ ' ' :: (unit.toList ++ " */".toList) := by
    simp
  have hnumber : ' ' ∉ (toString n).toList := notMem_repr (by decide) n
  have hread : readNat (toString n).toList = n := readNat_repr n
  have htake : (unit.toList ++ " */".toList).take 2 = unit.toList := by
    rcases hunit with rfl | rfl
    · rfl
    · rfl
  unfold readReturn
  rw [htail, cutFirst_append hslash]
  dsimp only
  rw [hcomment, cutFirst_append hnumber]
  dsimp only
  rw [hread, htake, String.ofList_toList]
  simp

/-- A result brings no bracket behind that of the arguments. -/
theorem notMem_returnText {ret : String} (hret : PlainReturn ret) {elapsed : ℕ × String}
    (hunit : PlainUnit elapsed.2) : ')' ∉ returnText ret elapsed := by
  have hnumber : ')' ∉ (toString elapsed.1).toList := notMem_repr (by decide) elapsed.1
  have hunit' : ')' ∉ elapsed.2.toList := by
    rcases hunit with h | h
    · rw [h]
      decide
    · rw [h]
      decide
  simp only [returnText, List.mem_append, not_or]
  exact ⟨⟨⟨⟨⟨⟨by decide, hret.bracket⟩, by decide⟩, hnumber⟩, by decide⟩, hunit'⟩, by decide⟩

theorem PlainStart.append {s t : List Char} (hs : PlainStart s) (ht : PlainStart t) : PlainStart (s ++ t) := by
  cases s with
  | nil => exact ht
  | cons c s => exact ⟨hs.tab, hs.brace⟩

theorem dropWhile_indent (depth : ℕ) (rest : List Char) :
    ((indent depth).toList ++ rest).dropWhile (· = '\t') = rest.dropWhile (· = '\t') := by
  refine List.dropWhile_append_of_pos fun c hc => ?_
  rw [indent, String.toList_ofList] at hc
  simpa using List.eq_of_mem_replicate hc

theorem lineShape_call (depth : ℕ) {call : List Char} (h : PlainStart call) :
    lineShape ((indent depth).toList ++ call) =
      if (cutLast ')' call).2 = [' ', '{'] then
        .opening (cutFirst '(' (cutLast ')' call).1).1 (cutFirst '(' (cutLast ')' call).1).2
      else .other call := by
  have hcall : call.dropWhile (· = '\t') = call := by
    cases call with
    | nil => rfl
    | cons c call =>
      refine List.dropWhile_cons_of_neg ?_
      simpa using fun hc : c = '\t' => h.tab (congrArg some hc)
  unfold lineShape
  rw [dropWhile_indent, hcall]
  split
  · exact absurd rfl h.brace
  · rfl

theorem PlainHead.line {func args : String} (h : PlainHead func args) (tail : List Char) :
    PlainStart (func.toList ++ '(' :: args.toList ++ ')' :: tail) := by
  rw [List.append_assoc]
  exact h.start.append ⟨by simp, by simp⟩

theorem lineShape_open (depth : ℕ) {func args : String} (h : PlainHead func args) :
    lineShape (formatOpenLine depth func args).toList = .opening func.toList args.toList := by
  have hline : (formatOpenLine depth func args).toList =
      (indent depth).toList ++ (func.toList ++ '(' :: args.toList ++ ')' :: [' ', '{']) := by
    simp [formatOpenLine]
  rw [hline, lineShape_call depth (h.line _), cutLast_append (by decide), if_pos rfl,
    cutFirst_append h.bracket]

theorem lineShape_close (depth : ℕ) {ret : String} (hret : PlainReturn ret) {elapsed : ℕ × String}
    (hunit : PlainUnit elapsed.2) :
    lineShape (formatCloseLine depth ret elapsed).toList = .closing ⟨ret, elapsed⟩ := by
  have hline : (formatCloseLine depth ret elapsed).toList =
      (indent depth).toList ++ '}' :: returnText ret elapsed := by
    simp [formatCloseLine, returnText]
  unfold lineShape
  rw [hline, dropWhile_indent, ← readReturn_spec hret hunit]
  rfl

theorem lineShape_leaf (depth : ℕ) {func args ret : String} (h : PlainHead func args) (hret : PlainReturn ret)
    {elapsed : ℕ × String} (hunit : PlainUnit elapsed.2) :
    lineShape (formatLeafLine depth func args ret elapsed).toList =
      .other (func.toList ++ '(' :: args.toList ++ ')' :: returnText ret elapsed) := by
  have hline : (formatLeafLine depth func args ret elapsed).toList = (indent depth).toList ++
      (func.toList ++ '(' :: args.toList ++ ')' :: returnText ret elapsed) := by
    simp [formatLeafLine, returnText]
  have hother : returnText ret elapsed ≠ [' ', '{'] := by
    intro he
    have hsecond := congrArg (fun s => s[1]?) he
    simp [returnText] at hsecond
  rw [hline, lineShape_call depth (h.line _), cutLast_append (notMem_returnText hret hunit), if_neg hother]

/-! ### Lines and the events they stand for -/

/-- The events of a line; `other` has those of a line that neither opens nor closes a call. -/
def readLine {χ : Type} (cfg : Config) (other : ℕ → List Char → List (CallEvent SpanHead SpanResult χ))
    (line : String) : List (CallEvent SpanHead SpanResult χ) :=
  let (_, timestamp, body) := readMeta cfg line.toList
  match lineShape body with
  | .opening func args => [.opened ⟨String.ofList func, String.ofList args, timestamp⟩]
  | .closing r => [.closed r]
  | .other body => other timestamp body

/-- A call without children. -/
def loneCall (timestamp : ℕ) (body : List Char) : List (CallEvent SpanHead SpanResult Empty) :=
  let (front, tail) := cutLast ')' body
  let (func, args) := cutFirst '(' front
  [.opened ⟨String.ofList func, String.ofList args, timestamp⟩, .closed (readReturn tail)]

section

variable {χ : Type} (cfg : Config) (other : ℕ → List Char → List (CallEvent SpanHead SpanResult χ))
  (tid : Pid) (timestamp depth : ℕ)

theorem readLine_open {func args : String} (h : PlainHead func args) :
    readLine cfg other (prependLeftMeta cfg (formatOpenLine depth func args) tid timestamp) =
      [.opened ⟨func, args, shownTs cfg timestamp⟩] := by
  unfold readLine
  rw [readMeta_prepend]
  dsimp only
  rw [lineShape_open depth h]
  simp only [String.ofList_toList]

theorem readLine_close {ret : String} (hret : PlainReturn ret) {elapsed : ℕ × String}
    (hunit : PlainUnit elapsed.2) :
    readLine cfg other (prependLeftMeta cfg (formatCloseLine depth ret elapsed) tid timestamp) =
      [.closed ⟨ret, elapsed⟩] := by
  unfold readLine
  rw [readMeta_prepend]
  dsimp only
  rw [lineShape_close depth hret hunit]

end

theorem readLine_leaf (cfg : Config) (tid : Pid) (timestamp depth : ℕ) {func args ret : String}
    (h : PlainHead func args) (hret : PlainReturn ret) {elapsed : ℕ × String} (hunit : PlainUnit elapsed.2) :
    readLine cfg loneCall (prependLeftMeta cfg (formatLeafLine depth func args ret elapsed) tid timestamp) =
      [.opened ⟨func, args, shownTs cfg timestamp⟩, .closed ⟨ret, elapsed⟩] := by
  unfold readLine
  rw [readMeta_prepend]
  dsimp only
  rw [lineShape_leaf depth h hret hunit]
  unfold loneCall
  dsimp only
  rw [cutLast_append (notMem_returnText hret hunit)]
  dsimp only
  rw [cutFirst_append h.bracket, readReturn_spec hret hunit]
  simp only [String.ofList_toList]

/-- What the lines tell of a call. -/
def callView (cfg : Config) : View CallHead CallReturn Empty SpanHead SpanResult Empty where
  head h := ⟨h.func, h.args, shownTs cfg h.startedTs⟩
  result h r := ⟨r.ret, callElapsed cfg h r⟩
  leaf := id

theorem callPrinter_readBy (cfg : Config) (tid : Pid) :
    (callPrinter cfg tid).ReadBy (callView cfg) (readLine cfg loneCall)
      (fun h => PlainHead h.func h.args) (fun r => PlainReturn r.ret) where
  opening depth h hh := readLine_open cfg loneCall tid h.startedTs depth hh
  closing depth h _ _ hr :=
    readLine_close cfg loneCall tid h.startedTs depth hr (plainUnit_durationForConfig cfg _)
  single depth h _ hh hr :=
    readLine_leaf cfg tid h.startedTs depth hh hr (plainUnit_durationForConfig cfg _)

/-! ### Texts of several threads -/

/-- The line does not break, and its thread is read off it. -/
def LineOf (cfg : Config) (t : Pid) (line : String) : Prop :=
  NoBreak line ∧ (readMeta cfg line.toList).1 = if cfg.leftMeta.includeTid then some t else none

theorem lineOf_prepend (cfg : Config) {line : String} (h : NoBreak line) (tid : Pid) (timestamp : ℕ) :
    LineOf cfg tid (prependLeftMeta cfg line tid timestamp) := by
  have hint : '\n' ∉ (toString tid.toInt).toList := notMem_toString_int (by decide) (by decide) _
  have hnat : '\n' ∉ (toString timestamp).toList := notMem_repr (by decide) timestamp
  have hunit : unitLetter cfg.timeUnit ≠ '\n' := by
    cases cfg.timeUnit with
    | ns => decide
    | us => decide
  refine ⟨?_, by rw [readMeta_prepend]⟩
  rw [NoBreak, prependLeftMeta_toList]
  simp only [List.mem_append, not_or]
  refine ⟨⟨⟨?_, ?_⟩, ?_⟩, h⟩
  · split
    · simp only [List.mem_append, not_or]
      exact ⟨⟨by decide, hint⟩, by decide⟩
    · exact List.not_mem_nil
  · split
    · simp only [List.mem_append, not_or]
      exact ⟨⟨by decide, hnat⟩, by simp [hunit.symm]⟩
    · exact List.not_mem_nil
  · split
    · decide
    · exact List.not_mem_nil

theorem noBreak_indent (depth : ℕ) : NoBreak (indent depth) := by
  intro hc
  rw [indent, String.toList_ofList] at hc
  exact absurd (List.eq_of_mem_replicate hc) (by decide)

theorem noBreak_nat (n : ℕ) : NoBreak (toString n) := notMem_repr (by decide) n

theorem PlainUnit.noBreak {unit : String} (h : PlainUnit unit) : NoBreak unit := by
  rcases h with rfl | rfl
  · decide
  · decide

section

variable (depth : ℕ) {func args ret : String} {elapsed : ℕ × String}

theorem noBreak_formatOpenLine (h : PlainHead func args) : NoBreak (formatOpenLine depth func args) :=
  ((((noBreak_indent depth).append h.func).append (by decide)).append h.args).append (by decide)

theorem noBreak_formatCloseLine (hret : PlainReturn ret) (hunit : PlainUnit elapsed.2) :
    NoBreak (formatCloseLine depth ret elapsed) :=
  (((((((noBreak_indent depth).append (by decide)).append hret.noBreak).append (by decide)).append
    (noBreak_nat _)).append (by decide)).append hunit.noBreak).append (by decide)

theorem noBreak_formatLeafLine (h : PlainHead func args) (hret : PlainReturn ret) (hunit : PlainUnit elapsed.2) :
    NoBreak (formatLeafLine depth func args ret elapsed) :=
  ((((((((((noBreak_indent depth).append h.func).append (by decide)).append h.args).append
    (by decide)).append hret.noBreak).append (by decide)).append (noBreak_nat _)).append (by decide)).append
    hunit.noBreak).append (by decide)

end

/-- A hook's name, arguments and result. -/
def CallLabel.Plain : CallLabel → Prop
  | .enter _ _ _ func args => PlainHead func args
  | .finish _ ret => PlainReturn ret
  | .bypass | .unbypass => True

/-- The lines of a thread so far, and what they tell. -/
structure CallsRead (image : Image) (t : Pid) (s : Caller) : Prop where
  inv : CallInv image t s
  heads : ∀ h ∈ s.forest.heads, PlainHead h.func h.args
  lines : ∀ l ∈ (callPrinter image.config t).text s.forest, LineOf image.config t l
  read : .ofEvents (((callPrinter image.config t).text s.forest).flatMap (readLine image.config loneCall)) =
    (callView image.config).openForest ((callPrinter image.config t).shown s.forest)

theorem CallsRead.grow {image : Image} {t : Pid} {s s' : Caller} (h : CallsRead image t s)
    (hinv : CallInv image t s') {e : CallEvent CallHead CallReturn Empty}
    (he : e.Plain (fun h => PlainHead h.func h.args) (fun r => PlainReturn r.ret) fun _ => True)
    (hs : s'.forest = s.forest.grow e) : CallsRead image t s' := by
  refine ⟨hinv, ?_, ?_, ?_⟩
  · rw [hs]
    exact OpenForest.heads_grow h.heads he
  · rw [hs]
    refine LazyPrinter.forall_text_grow (fun d x hx => ?_) (fun d x r _ hr => ?_) (fun d x r hx hr => ?_)
      h.heads he h.lines
    · exact lineOf_prepend _ (noBreak_formatOpenLine d hx) t _
    · exact lineOf_prepend _ (noBreak_formatCloseLine d hr (plainUnit_durationForConfig _ _)) t _
    · exact lineOf_prepend _ (noBreak_formatLeafLine d hx hr (plainUnit_durationForConfig _ _)) t _
  · rw [hs]
    exact (callPrinter_readBy image.config t).grow h.heads he h.read

theorem CallsRead.step {image : Image} (hin : image.inTracerProcess = false) {t : Pid} {s s' : Caller}
    (h : CallsRead image t s) {l : CallLabel} (hl : l.Plain) (hs : s.step image t l = some s') :
    CallsRead image t s' := by
  have hinv := h.inv.step hin hs
  have hsame : s'.forest = s.forest → CallsRead image t s' := fun he =>
    ⟨hinv, he ▸ h.heads, he ▸ h.lines, he ▸ h.read⟩
  cases l with
  | enter seqs clock domain func args =>
    obtain rfl := Option.some.inj hs
    cases htraces : s.thread.traces image domain with
    | true =>
      exact h.grow hinv (e := .opened (clock.call image.config func args)) hl (if_pos htraces)
    | false => exact hsame (if_neg (by rw [htraces]; decide))
  | finish clock ret =>
    cases hscopes : s.scopes with
    | nil =>
      simp only [Caller.step, hscopes] at hs
      cases hs
    | cons o rest =>
      simp only [Caller.step, hscopes] at hs
      obtain rfl := Option.some.inj hs
      cases htraced : o.traced with
      | true => exact h.grow hinv (e := .closed ⟨ret, clock.instantNow⟩) hl (if_pos htraced)
      | false => exact hsame (if_neg (by rw [htraced]; decide))
  | bypass | unbypass =>
    obtain rfl := Option.some.inj hs
    exact hsame rfl

def traced (startedAt : ℕ) (func args : String) : CallLabel :=
  .enter (fun _ => none) ⟨0, startedAt⟩ .driver func args

end CudaTrace.Hook
