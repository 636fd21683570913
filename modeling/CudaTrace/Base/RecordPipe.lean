import Mathlib.Data.List.Basic
import CudaTrace.Base.Transition

/-!
# Records through a byte pipe

Writers put records of one size into a pipe, and a reader takes them out in reads of that
size. The pipe knows bytes only. A write of at most `pipeBuf` bytes is taken whole or not at
all, a longer one may be taken in part. `Exact` says that the reader gets the records that
were put in, each once and in order.
-/

namespace CudaTrace.Base

/-- A representation of the values of `α` by `size` bytes. -/
structure RecordCodec (α : Type*) where
  size : ℕ
  encode : α → List UInt8
  decode : List UInt8 → α
  size_pos : 0 < size
  length_encode : ∀ a, (encode a).length = size
  decode_encode : ∀ a, decode (encode a) = a

/-- What a read call returns: the bytes it copied, or the error it failed with. -/
inductive ReadResult where
  | got (bytes : List UInt8)
  | again
  | interrupted
  | failed

/-- The kernel may answer a read of `n` bytes so; the result is what stays in the pipe. No bytes
at all are the end of the file. -/
def pipeRead (n : ℕ) (held : List UInt8) : ReadResult → Option (List UInt8)
  | .got bytes => if bytes = held.take n then some (held.drop n) else none
  | .again => if held = [] then some held else none
  | .interrupted | .failed => some held

/-- The kernel may take `n` of the bytes offered. -/
def PipeTakes (pipeBuf cap : ℕ) (held offered : List UInt8) (n : ℕ) : Prop :=
  n ≤ offered.length ∧ held.length + n ≤ cap ∧ (offered.length ≤ pipeBuf → n = offered.length)

instance (pipeBuf cap : ℕ) (held offered : List UInt8) (n : ℕ) :
    Decidable (PipeTakes pipeBuf cap held offered n) :=
  inferInstanceAs (Decidable (_ ∧ _ ∧ _))

/-- The bytes in the pipe, and the reader: whether it is inside its loop, and what it made of the
records so far. -/
structure RecordPipe (τ : Type*) where
  bytes : List UInt8
  draining : Bool
  table : τ

/-- `edit` is a change of the table outside the loop. -/
inductive RecordPipeLabel (α τ : Type*) where
  | write (a : α) (n : ℕ)
  | refuse (a : α)
  | drain
  | read (r : ReadResult)
  | edit (f : τ → τ)

/-- `torn` is a part of a record that went in or came out, `idle` the end of a loop that found
nothing to read, and `broken` its end after an error. -/
inductive RecordPipeEvent (α τ : Type*) where
  | sent (a : α)
  | received (a : α)
  | edited (f : τ → τ)
  | torn
  | began
  | idle
  | broken

namespace RecordPipeEvent

variable {α τ : Type*}

def sent? : RecordPipeEvent α τ → Option α
  | .sent a => some a
  | _ => none

def received? : RecordPipeEvent α τ → Option α
  | .received a => some a
  | _ => none

/-- The records that went in. -/
def allSent (w : List (RecordPipeEvent α τ)) : List α := w.filterMap sent?

/-- The records that came out. -/
def allReceived (w : List (RecordPipeEvent α τ)) : List α := w.filterMap received?

/-- What the reader does to its table. -/
def replay (apply : τ → α → τ) (table : τ) (e : RecordPipeEvent α τ) : τ :=
  match e with
  | .received a => apply table a
  | .edited f => f table
  | _ => table

theorem allSent_append (v w : List (RecordPipeEvent α τ)) : allSent (v ++ w) = allSent v ++ allSent w :=
  List.filterMap_append

theorem allReceived_append (v w : List (RecordPipeEvent α τ)) :
    allReceived (v ++ w) = allReceived v ++ allReceived w :=
  List.filterMap_append

end RecordPipeEvent

open RecordPipeEvent

section

variable {α τ : Type*} (C : RecordCodec α) (apply : τ → α → τ)

/-- One turn of the reader's loop, and whether the loop goes on. -/
def drainTurn (table : τ) : ReadResult → τ × Bool
  | .got bytes => if bytes.length = C.size then (apply table (C.decode bytes), true) else (table, false)
  | .interrupted => (table, true)
  | .again | .failed => (table, false)

namespace RecordPipe

def step (pipeBuf cap : ℕ) (s : RecordPipe τ) : RecordPipeLabel α τ → Option (RecordPipe τ)
  | .write a n =>
    if PipeTakes pipeBuf cap s.bytes (C.encode a) n then
      some { s with bytes := s.bytes ++ (C.encode a).take n }
    else none
  | .refuse _ => some s
  | .drain => if s.draining then none else some { s with draining := true }
  | .read r =>
    if s.draining then
      (pipeRead C.size s.bytes r).map fun rest =>
        let (table, more) := drainTurn C apply s.table r
        { bytes := rest, draining := more, table := table }
    else none
  | .edit f => if s.draining then none else some { s with table := f s.table }

/-- An empty pipe, and a reader outside its loop. -/
def initial (table₀ : τ) : RecordPipe τ := ⟨[], false, table₀⟩

def system (pipeBuf cap : ℕ) (table₀ : τ) : System (RecordPipe τ) (RecordPipeLabel α τ) :=
  .ofPartial (· = initial table₀) (step C apply pipeBuf cap)

/-- What a step shows. -/
def events (_ : RecordPipe τ) (l : RecordPipeLabel α τ) (_ : RecordPipe τ) : List (RecordPipeEvent α τ) :=
  match l with
  | .write a n => if n = C.size then [.sent a] else [.torn]
  | .refuse _ => []
  | .drain => [.began]
  | .read (.got bytes) =>
    if bytes.length = C.size then [.received (C.decode bytes)]
    else if bytes = [] then [.idle]
    else [.torn]
  | .read .again => [.idle]
  | .read .interrupted => []
  | .read .failed => [.broken]
  | .edit f => [.edited f]

/-- Records come out as they went in, each once and in order; the pipe holds the encodings of those
that did not come out yet, the table is what the reader made of the others, and a loop that
found nothing to read had taken out all that went in before. -/
structure Exact (cap : ℕ) (table₀ : τ) (s : RecordPipe τ) (w : List (RecordPipeEvent α τ)) : Prop where
  whole : .torn ∉ w
  order : ∃ queue, allSent w = allReceived w ++ queue ∧ s.bytes = queue.flatMap C.encode
  fits : s.bytes.length ≤ cap
  table : s.table = w.foldl (replay apply) table₀
  idle : ∀ v u, w = v ++ .idle :: u → allSent v = allReceived v

end RecordPipe

/-! ### One step -/

variable {C apply} {pipeBuf cap : ℕ} {table₀ : τ}

theorem RecordCodec.encode_ne_nil (C : RecordCodec α) (a : α) : C.encode a ≠ [] := by
  intro h
  have hlen := C.length_encode a
  rw [h, List.length_nil] at hlen
  exact absurd C.size_pos (by omega)

theorem RecordCodec.flatMap_eq_nil {queue : List α} : queue.flatMap C.encode = [] ↔ queue = [] := by
  cases queue with
  | nil => exact iff_of_true rfl rfl
  | cons a queue =>
    refine iff_of_false (fun h => ?_) (List.cons_ne_nil _ _)
    rw [List.flatMap_cons] at h
    exact C.encode_ne_nil a (List.append_eq_nil_iff.mp h).1

theorem RecordCodec.length_flatMap (C : RecordCodec α) (queue : List α) :
    (queue.flatMap C.encode).length = queue.length * C.size := by
  induction queue with
  | nil => rw [List.flatMap_nil, List.length_nil, List.length_nil, Nat.zero_mul]
  | cons a queue ih =>
    rw [List.flatMap_cons, List.length_append, C.length_encode, ih, List.length_cons, Nat.succ_mul,
      Nat.add_comm]

/-- A pipe of whole records takes a record whole when one more fits. -/
theorem RecordCodec.takes_iff (C : RecordCodec α) (queue : List α) (a : α) :
    PipeTakes pipeBuf cap (queue.flatMap C.encode) (C.encode a) C.size ↔
      (queue.length + 1) * C.size ≤ cap := by
  have hlen := C.length_encode a
  rw [PipeTakes, hlen, C.length_flatMap, Nat.succ_mul]
  exact ⟨fun h => h.2.1, fun h => ⟨Nat.le_refl _, h, fun _ => rfl⟩⟩

/-- A read from a pipe of whole records: one record, or nothing when there is none. -/
theorem pipeRead_got {queue : List α} {bytes rest : List UInt8}
    (h : pipeRead C.size (queue.flatMap C.encode) (.got bytes) = some rest) :
    (queue = [] ∧ bytes = [] ∧ rest = []) ∨
    ∃ a tail, queue = a :: tail ∧ bytes = C.encode a ∧ rest = tail.flatMap C.encode := by
  obtain ⟨hb, hr⟩ := Option.ite_none_right_eq_some.mp h
  have hr := (Option.some.inj hr).symm
  cases queue with
  | nil =>
    rw [List.flatMap_nil] at hb hr
    rw [List.take_nil] at hb
    rw [List.drop_nil] at hr
    exact Or.inl ⟨rfl, hb, hr⟩
  | cons a tail =>
    have hlen := C.length_encode a
    rw [List.flatMap_cons] at hb hr
    rw [List.take_left' hlen] at hb
    rw [List.drop_left' hlen] at hr
    exact Or.inr ⟨a, tail, rfl, hb, hr⟩

namespace RecordPipe

variable {s s' : RecordPipe τ} {w : List (RecordPipeEvent α τ)}

/-- An event that is no end of an idle loop leaves what is known about those ends. -/
theorem idle_append {e : RecordPipeEvent α τ} (h : ∀ v u, w = v ++ .idle :: u → allSent v = allReceived v)
    (he : e = .idle → allSent w = allReceived w) :
    ∀ v u, w ++ [e] = v ++ .idle :: u → allSent v = allReceived v := by
  intro v u hw
  rcases List.eq_nil_or_concat u with rfl | ⟨u', x, rfl⟩
  · obtain ⟨rfl, hlast⟩ := List.append_inj' hw rfl
    exact he (List.cons.inj hlast).1
  · have hw' : w ++ [e] = (v ++ .idle :: u') ++ [x] := by
      rw [hw, List.append_assoc, List.cons_append, List.concat_eq_append]
    exact h v u' (List.append_inj' hw' rfl).1

theorem Exact.append {e : RecordPipeEvent α τ} (h : Exact C apply cap table₀ s w) (queue' : List α)
    (he : e ≠ .torn) (hidle : e = .idle → allSent w = allReceived w)
    (horder : allSent (w ++ [e]) = allReceived (w ++ [e]) ++ queue')
    (hbytes : s'.bytes = queue'.flatMap C.encode) (hfits : s'.bytes.length ≤ cap)
    (htable : s'.table = e.replay apply s.table) : Exact C apply cap table₀ s' (w ++ [e]) := by
  refine ⟨fun hmem => ?_, ⟨queue', horder, hbytes⟩, hfits, ?_, idle_append h.idle hidle⟩
  · rcases List.mem_append.mp hmem with hmem | hmem
    · exact h.whole hmem
    · exact he (List.mem_singleton.mp hmem).symm
  · rw [List.foldl_append, ← h.table, htable]
    rfl

/-- The bytes stay, and nothing is received. -/
theorem Exact.quiet {e : RecordPipeEvent α τ} (h : Exact C apply cap table₀ s w) (he : e ≠ .torn)
    (hsent : e.sent? = none) (hreceived : e.received? = none)
    (hidle : e = .idle → allSent w = allReceived w) (hbytes : s'.bytes = s.bytes)
    (htable : s'.table = e.replay apply s.table) : Exact C apply cap table₀ s' (w ++ [e]) := by
  obtain ⟨queue, hq, hb⟩ := h.order
  have hs : allSent (w ++ [e]) = allSent w := by
    rw [allSent_append, allSent, allSent, List.filterMap_cons_none hsent, List.filterMap_nil,
      List.append_nil]
  have hr : allReceived (w ++ [e]) = allReceived w := by
    rw [allReceived_append, allReceived, allReceived, List.filterMap_cons_none hreceived,
      List.filterMap_nil, List.append_nil]
  refine h.append queue he hidle ?_ (hbytes.trans hb) (hbytes ▸ h.fits) htable
  rw [hs, hr, hq]

theorem Exact.write (hsize : C.size ≤ pipeBuf) (h : Exact C apply cap table₀ s w) {a : α} {n : ℕ}
    (hs : step C apply pipeBuf cap s (.write a n) = some s') :
    Exact C apply cap table₀ s' (w ++ events C s (.write a n) s') := by
  obtain ⟨⟨-, hcap, hall⟩, he⟩ := Option.ite_none_right_eq_some.mp hs
  obtain rfl := (Option.some.inj he).symm
  have hlen := C.length_encode a
  have hn : n = C.size := by
    rw [hlen] at hall
    exact hall hsize
  obtain ⟨queue, hq, hb⟩ := h.order
  have hevent : events C s (.write a n) { s with bytes := s.bytes ++ (C.encode a).take n } =
      [.sent a] := if_pos hn
  have htake : (C.encode a).take n = C.encode a := List.take_of_length_le (by omega)
  rw [hevent, htake]
  rw [← htake] at hlen
  refine h.append (queue ++ [a]) (fun he => by cases he) (fun he => by cases he) ?_ ?_ ?_ rfl
  · have hr : allReceived (w ++ [.sent a]) = allReceived w :=
      (allReceived_append _ _).trans (List.append_nil _)
    rw [allSent_append, hr, hq, List.append_assoc]
    rfl
  · rw [List.flatMap_append, List.flatMap_singleton, hb]
  · rw [List.length_append, ← htake]
    omega

theorem Exact.read (h : Exact C apply cap table₀ s w) {r : ReadResult}
    (hs : step C apply pipeBuf cap s (.read r) = some s') :
    Exact C apply cap table₀ s' (w ++ events C s (.read r) s') := by
  obtain ⟨-, he⟩ := Option.ite_none_right_eq_some.mp hs
  obtain ⟨rest, hread, rfl⟩ := Option.map_eq_some_iff.mp he
  obtain ⟨queue, hq, hb⟩ := h.order
  cases r with
  | got bytes =>
    rw [hb] at hread
    rcases pipeRead_got hread with ⟨rfl, rfl, rfl⟩ | ⟨a, tail, rfl, rfl, rfl⟩
    · have hshort : ([] : List UInt8).length ≠ C.size := Nat.ne_of_lt C.size_pos
      have hevent : ∀ s', events C s (.read (.got [])) s' = [.idle] := fun _ =>
        (if_neg hshort).trans (if_pos rfl)
      have hturn : drainTurn C apply s.table (.got []) = (s.table, false) := if_neg hshort
      rw [hevent, hturn]
      rw [List.append_nil] at hq
      exact h.quiet (fun he => by cases he) rfl rfl (fun _ => hq) hb.symm rfl
    · have hfull := C.length_encode a
      have hevent : ∀ s', events C s (.read (.got (C.encode a))) s' = [.received a] := fun _ =>
        (if_pos hfull).trans (by rw [C.decode_encode])
      have hturn : drainTurn C apply s.table (.got (C.encode a)) = (apply s.table a, true) :=
        (if_pos hfull).trans (by rw [C.decode_encode])
      have hr : allReceived (w ++ [.received a]) = allReceived w ++ [a] := allReceived_append _ _
      rw [hevent, hturn]
      refine h.append tail (fun he => by cases he) (fun he => by cases he) ?_ rfl ?_ rfl
      · rw [allSent_append, hr, List.append_assoc, hq]
        exact List.append_nil _
      · have hle := h.fits
        rw [hb, List.flatMap_cons, List.length_append] at hle
        exact Nat.le_trans (Nat.le_add_left _ _) hle
  | again =>
    obtain ⟨hempty, hrest⟩ := Option.ite_none_right_eq_some.mp hread
    have hqueue : queue = [] := RecordCodec.flatMap_eq_nil.mp (hb.symm.trans hempty)
    rw [hqueue, List.append_nil] at hq
    exact h.quiet (fun he => by cases he) rfl rfl (fun _ => hq) (Option.some.inj hrest).symm rfl
  | interrupted =>
    obtain rfl := Option.some.inj hread
    rw [events, List.append_nil]
    exact ⟨h.whole, h.order, h.fits, h.table, h.idle⟩
  | failed =>
    exact h.quiet (fun he => by cases he) rfl rfl (fun he => by cases he)
      (Option.some.inj hread).symm rfl

theorem Exact.step (hsize : C.size ≤ pipeBuf) (h : Exact C apply cap table₀ s w)
    {l : RecordPipeLabel α τ} (hs : step C apply pipeBuf cap s l = some s') :
    Exact C apply cap table₀ s' (w ++ events C s l s') := by
  cases l with
  | write a n => exact h.write hsize hs
  | refuse a =>
    obtain rfl := Option.some.inj hs
    exact (List.append_nil w).symm ▸ h
  | drain =>
    obtain ⟨-, he⟩ := Option.ite_none_left_eq_some.mp hs
    obtain rfl := Option.some.inj he
    exact h.quiet (fun he => by cases he) rfl rfl (fun he => by cases he) rfl rfl
  | read r => exact h.read hs
  | edit f =>
    obtain ⟨-, he⟩ := Option.ite_none_left_eq_some.mp hs
    obtain rfl := Option.some.inj he
    exact h.quiet (fun he => by cases he) rfl rfl (fun he => by cases he) rfl rfl

/-! ### Runs -/

theorem exact_of_trace (hsize : C.size ≤ pipeBuf)
    (h : (system C apply pipeBuf cap table₀).Trace (fun _ _ => True) (events C) s w) :
    Exact C apply cap table₀ s w :=
  h.history
    (fun s hs => by
      obtain rfl : s = initial table₀ := hs
      exact ⟨List.not_mem_nil, ⟨[], rfl, rfl⟩, Nat.zero_le _, rfl, fun v u hw =>
        absurd hw.symm (List.append_ne_nil_of_right_ne_nil v (List.cons_ne_nil _ _))⟩)
    fun _ _ _ _ hinv _ hst => hinv.step hsize hst

/-- A loop that nobody disturbs takes out all records and ends. -/
theorem drains (table : τ) (queue : List α) :
    (queue.map fun a => (.read (.got (C.encode a)) : RecordPipeLabel α τ)).foldlM
      (RecordPipe.step C apply pipeBuf cap) ⟨queue.flatMap C.encode, true, table⟩ =
      some ⟨[], true, queue.foldl apply table⟩ := by
  induction queue generalizing table with
  | nil => rfl
  | cons a queue ih =>
    have hlen := C.length_encode a
    have hread : pipeRead C.size ((a :: queue).flatMap C.encode) (.got (C.encode a)) =
        some (queue.flatMap C.encode) := by
      rw [pipeRead, List.flatMap_cons, List.take_left' hlen, List.drop_left' hlen, if_pos rfl]
    have hturn : drainTurn C apply table (.got (C.encode a)) = (apply table a, true) :=
      (if_pos hlen).trans (by rw [C.decode_encode])
    have hstep : RecordPipe.step C apply pipeBuf cap ⟨(a :: queue).flatMap C.encode, true, table⟩
        (.read (.got (C.encode a))) = some ⟨queue.flatMap C.encode, true, apply table a⟩ := by
      rw [RecordPipe.step, if_pos rfl, hread, Option.map_some, hturn]
    rw [List.map_cons, List.foldlM_cons, hstep]
    exact ih (apply table a)

/-! ### Reachable contents -/

theorem reach_step {l : RecordPipeLabel α τ} (h : (system C apply pipeBuf cap table₀).Reachable s)
    (hs : RecordPipe.step C apply pipeBuf cap s l = some s') :
    (system C apply pipeBuf cap table₀).Reachable s' :=
  System.Reach.step h trivial hs

theorem reach_send {a : α} (hn : PipeTakes pipeBuf cap s.bytes (C.encode a) C.size)
    (h : (system C apply pipeBuf cap table₀).Reachable s) :
    (system C apply pipeBuf cap table₀).Reachable { s with bytes := s.bytes ++ C.encode a } := by
  have htake : (C.encode a).take C.size = C.encode a :=
    List.take_of_length_le (Nat.le_of_eq (C.length_encode a))
  have hs : RecordPipe.step C apply pipeBuf cap s (.write a C.size) =
      some { s with bytes := s.bytes ++ C.encode a } := by
    rw [RecordPipe.step, if_pos hn, htake]
  exact reach_step h hs

theorem reach_edit (f : τ → τ) (hidle : s.draining = false)
    (h : (system C apply pipeBuf cap table₀).Reachable s) :
    (system C apply pipeBuf cap table₀).Reachable { s with table := f s.table } := by
  have hs : RecordPipe.step C apply pipeBuf cap s (.edit f) = some { s with table := f s.table } := by
    rw [RecordPipe.step, hidle]
    rfl
  exact reach_step h hs

theorem reach_drain {queue : List α} {table : τ}
    (h : (system C apply pipeBuf cap table₀).Reachable ⟨queue.flatMap C.encode, false, table⟩) :
    (system C apply pipeBuf cap table₀).Reachable ⟨[], false, queue.foldl apply table⟩ := by
  have hbegan : RecordPipe.step C apply pipeBuf cap ⟨queue.flatMap C.encode, false, table⟩ .drain =
      some ⟨queue.flatMap C.encode, true, table⟩ := rfl
  have hdone : RecordPipe.step C apply pipeBuf cap ⟨[], true, queue.foldl apply table⟩ (.read .again) =
      some ⟨[], false, queue.foldl apply table⟩ := rfl
  have hread := System.Reachable.of_foldlM (reach_step h hbegan) (drains table queue)
  exact reach_step hread hdone

end RecordPipe
end
end CudaTrace.Base
