import CudaTrace.Hook.WindowAgreement

/-!
# The publishing descriptors (ptrace.rs, `publish_*`)

The write ends of the two pipes are numbers in two atomics. Publishing takes the
number, writes, and after `EBADF` or `EPIPE` retires the number; between these steps
the program may do anything to its descriptors.
-/

namespace CudaTrace.Hook
open CudaTrace.Base CudaTrace.Boot CudaTrace.Ptrace

inductive Pipe where
  | depth
  | window
  deriving DecidableEq

/-- An open file description: the write end of a pipe of cudatrace, or a file of the program. -/
inductive OpenFile where
  | own (pipe : Pipe)
  | other (id : ℕ)
  deriving DecidableEq

def OpenFile.isOwn : OpenFile → Bool
  | .own _ => true
  | .other _ => false

abbrev Errno := I32

def ebadf : Errno := 9
def eagain : Errno := 11
def epipe : Errno := 32

/-- What a write returned: a count, or a negative value and `errno`. -/
inductive WriteResult where
  | count (n : ℕ)
  | error (err : Errno)

/-- Whether the number is given up: a short write changes nothing. -/
def retires : WriteResult → Bool
  | .count _ => false
  | .error err => err = ebadf || err = epipe

/-- How far a thread is in a publish call: the number was read from the atomic, its write
has failed, or the number is out of the atomic and about to be closed. -/
inductive Publishing where
  | loaded (pipe : Pipe) (fd : I32)
  | failed (pipe : Pipe) (fd : I32)
  | exchanged (fd : I32)

/-- A hooked process: its descriptors, `DEPTH_PIPE_WR_FD` and `FGRAPH_WINDOW_PIPE_WR_FD`,
the threads inside a publish call, and whether the tracer still reads and `SIGPIPE` kills. -/
structure Published where
  fds : I32 → Option OpenFile
  wrFd : Pipe → I32
  publishing : Pid → Option Publishing
  tracerAlive : Bool
  sigpipeKills : Bool
  alive : Bool

/-- `install` makes a number refer to a file: an open, socket or pipe, or the target of a
dup. `answer` is what a write to a file of the program returns. -/
inductive PublishLabel where
  | install (fd : I32) (file : OpenFile)
  | close (fd : I32)
  | sigpipe (kills : Bool)
  | tracerDies
  | load (t : Pid) (pipe : Pipe)
  | write (t : Pid) (answer : WriteResult)
  | exchange (t : Pid)
  | retire (t : Pid)

/-- What publishing did to an open file, or to the process. -/
inductive Touch where
  | wrote (file : OpenFile)
  | closed (file : OpenFile)
  | killed

def Touch.harmless : Touch → Bool
  | .wrote file | .closed file => file.isOwn
  | .killed => false

namespace Published

def setPublishing (s : Published) (t : Pid) (p : Option Publishing) : Published :=
  { s with publishing := Function.update s.publishing t p }

/-- The result of a write, and whether the process got `SIGPIPE`. -/
def writeTo (s : Published) (answer : WriteResult) : Option OpenFile → WriteResult × Bool
  | none => (.error ebadf, false)
  | some (.own _) => if s.tracerAlive then (answer, false) else (.error epipe, s.sigpipeKills)
  | some (.other _) => (answer, false)

/-- One step; a dead process does nothing. -/
def stepObs (s : Published) (l : PublishLabel) : Option (Published × List Touch) :=
  if !s.alive then none
  else match l with
  | .install fd file =>
    if 0 ≤ fd.toInt then some ({ s with fds := Function.update s.fds fd (some file) }, []) else none
  | .close fd => some ({ s with fds := Function.update s.fds fd none }, [])
  | .sigpipe kills => some ({ s with sigpipeKills := kills }, [])
  | .tracerDies => some ({ s with tracerAlive := false }, [])
  | .load t pipe =>
    match s.publishing t with
    | some _ => none
    | none =>
      if (s.wrFd pipe).toInt < 0 then some (s, [])
      else some (s.setPublishing t (some (.loaded pipe (s.wrFd pipe))), [])
  | .write t answer =>
    match s.publishing t with
    | some (.loaded pipe fd) =>
      let file := s.fds fd
      let (r, killed) := s.writeTo answer file
      if killed then some ({ s with alive := false }, [.killed])
      else
        some (s.setPublishing t (if retires r then some (.failed pipe fd) else none),
          file.toList.map .wrote)
    | _ => none
  | .exchange t =>
    match s.publishing t with
    | some (.failed pipe fd) =>
      if s.wrFd pipe = fd then
        some ({ s.setPublishing t (some (.exchanged fd)) with
          wrFd := Function.update s.wrFd pipe (-1) }, [])
      else some (s.setPublishing t none, [])
    | _ => none
  | .retire t =>
    match s.publishing t with
    | some (.exchanged fd) =>
      some ({ s.setPublishing t none with fds := Function.update s.fds fd none },
        (s.fds fd).toList.map .closed)
    | _ => none

def step (s : Published) (l : PublishLabel) : Option Published := (s.stepObs l).map Prod.fst

def touched (s : Published) (l : PublishLabel) (_ : Published) : List Touch :=
  ((s.stepObs l).map Prod.snd).getD []

/-- After the start: both numbers are write ends of the pipes and nobody publishes. -/
structure Started (s : Published) : Prop where
  negative : ∀ fd, fd.toInt < 0 → s.fds fd = none
  ends : ∀ pipe, s.fds (s.wrFd pipe) = some (.own pipe)
  publishing : ∀ t, s.publishing t = none

/-- The number is in an atomic, or in the hands of a thread that is going to use it. -/
def InUse (s : Published) (fd : I32) : Prop :=
  (∃ pipe, s.wrFd pipe = fd) ∨
  ∃ t, (∃ pipe, s.publishing t = some (.loaded pipe fd)) ∨ s.publishing t = some (.exchanged fd)

/-- The program puts no file of its own under a number in use, and nobody publishes to a
dead tracer while `SIGPIPE` kills. -/
def Careful (s : Published) : PublishLabel → Prop
  | .install fd file => file.isOwn = true ∨ ¬ s.InUse fd
  | .write t _ => ∀ pipe fd, s.publishing t = some (.loaded pipe fd) →
      (∃ p, s.fds fd = some (.own p)) → s.tracerAlive = true ∨ s.sigpipeKills = false
  | _ => True

/-- A number in use is a write end of a pipe or closed. -/
structure OwnsItsNumbers (s : Published) : Prop where
  negative : ∀ fd, fd.toInt < 0 → s.fds fd = none
  owned : ∀ fd, s.InUse fd → ∀ file, s.fds fd = some file → file.isOwn = true

end Published

/-- The process from some state on. -/
def publishedFrom (start : Published → Prop) : System Published PublishLabel :=
  System.ofPartial start Published.step

def published : System Published PublishLabel := publishedFrom Published.Started

namespace Published

/-! ### Numbers in use -/

theorem setPublishing_self (s : Published) (t : Pid) (p : Option Publishing) :
    (s.setPublishing t p).publishing t = p := Function.update_self _ _ _

theorem setPublishing_of_ne (s : Published) {t t' : Pid} (p : Option Publishing) (h : t' ≠ t) :
    (s.setPublishing t p).publishing t' = s.publishing t' := Function.update_of_ne h _ _

/-- A thread that holds no number adds none to the numbers in use. -/
theorem inUse_of_setPublishing {s : Published} {t : Pid} {p : Option Publishing} {fd : I32}
    (hp : ∀ pipe, p ≠ some (.loaded pipe fd)) (hx : p ≠ some (.exchanged fd))
    (h : (s.setPublishing t p).InUse fd) : s.InUse fd := by
  rcases h with h | ⟨t', h⟩
  · exact Or.inl h
  · by_cases ht : t' = t
    · subst ht
      rw [setPublishing_self] at h
      rcases h with ⟨pipe, h⟩ | h
      · exact absurd h (hp pipe)
      · exact absurd h hx
    · rw [setPublishing_of_ne s p ht] at h
      exact Or.inr ⟨t', h⟩

theorem OwnsItsNumbers.setPublishing {s : Published} (h : s.OwnsItsNumbers) {t : Pid}
    {p : Option Publishing} (hp : ∀ fd, p = some (.exchanged fd) ∨
      (∃ pipe, p = some (.loaded pipe fd)) → s.InUse fd) :
    (s.setPublishing t p).OwnsItsNumbers := by
  refine ⟨h.negative, fun fd hu => h.owned fd ?_⟩
  by_cases hmem : p = some (.exchanged fd) ∨ ∃ pipe, p = some (.loaded pipe fd)
  · exact hp fd hmem
  · push Not at hmem
    exact inUse_of_setPublishing hmem.2 hmem.1 hu

/-- Closing a number keeps the others as they are. -/
theorem OwnsItsNumbers.close {s : Published} (h : s.OwnsItsNumbers) (fd : I32) :
    ({ s with fds := Function.update s.fds fd none } : Published).OwnsItsNumbers := by
  have hsub : ∀ fd' file, Function.update s.fds fd none fd' = some file →
      s.fds fd' = some file := by
    intro fd' file hf
    by_cases he : fd' = fd
    · rw [he, Function.update_self] at hf
      cases hf
    · rwa [Function.update_of_ne he] at hf
  refine ⟨fun fd' hneg => ?_, fun fd' hu file hf => h.owned fd' hu file (hsub fd' file hf)⟩
  refine Option.eq_none_iff_forall_ne_some.mpr fun file hf => ?_
  have hold := hsub fd' file hf
  rw [h.negative fd' hneg] at hold
  cases hold

theorem OwnsItsNumbers.install {s : Published} (h : s.OwnsItsNumbers) {fd : I32}
    {file : OpenFile} (hfd : 0 ≤ fd.toInt) (hc : file.isOwn = true ∨ ¬ s.InUse fd) :
    ({ s with fds := Function.update s.fds fd (some file) } : Published).OwnsItsNumbers := by
  constructor
  · intro fd' hneg
    have hne : fd' ≠ fd := fun he => absurd hfd (by rw [← he]; omega)
    exact (Function.update_of_ne hne _ _).trans (h.negative fd' hneg)
  · intro fd' hu file' hf
    change Function.update s.fds fd (some file) fd' = some file' at hf
    by_cases he : fd' = fd
    · subst he
      rw [Function.update_self] at hf
      obtain rfl := Option.some.inj hf
      rcases hc with hc | hc
      · exact hc
      · exact absurd hu hc
    · rw [Function.update_of_ne he] at hf
      exact h.owned fd' hu file' hf

/-- Taking a number out of its atomic leaves it in use by the thread that closes it. -/
theorem OwnsItsNumbers.exchange {s : Published} (h : s.OwnsItsNumbers) (t : Pid) (pipe : Pipe) :
    ({ s.setPublishing t (some (.exchanged (s.wrFd pipe))) with
      wrFd := Function.update s.wrFd pipe (-1) } : Published).OwnsItsNumbers := by
  refine ⟨h.negative, fun fd hu file hf => ?_⟩
  have hfile : s.fds fd = some file := hf
  refine h.owned fd ?_ file hfile
  rcases hu with ⟨p, hp⟩ | ⟨t', ht'⟩
  · change Function.update s.wrFd pipe (-1) p = fd at hp
    by_cases he : p = pipe
    · -- the atomic holds -1 now, which names no file
      subst he
      rw [Function.update_self] at hp
      subst hp
      rw [h.negative (-1) (by decide)] at hfile
      cases hfile
    · rw [Function.update_of_ne he] at hp
      exact Or.inl ⟨p, hp⟩
  · have hset : (s.setPublishing t (some (.exchanged (s.wrFd pipe)))).InUse fd := Or.inr ⟨t', ht'⟩
    by_cases he : s.wrFd pipe = fd
    · exact Or.inl ⟨pipe, he⟩
    · refine inUse_of_setPublishing (fun _ hx => ?_) (fun hx => he ?_) hset
      · cases hx
      · cases hx
        rfl

/-! ### Steps and runs -/

theorem toList_harmless {file : Option OpenFile} {mk : OpenFile → Touch}
    (hmk : ∀ f, (mk f).harmless = f.isOwn) (h : ∀ f, file = some f → f.isOwn = true) :
    ∀ o ∈ file.toList.map mk, o.harmless = true := by
  intro o ho
  obtain ⟨f, hf, rfl⟩ := List.mem_map.mp ho
  rw [hmk]
  exact h f (Option.mem_toList.mp hf)

/-- A write kills only by way of a pipe that nobody reads. -/
theorem writeTo_killed {s : Published} {answer : WriteResult} {file : Option OpenFile}
    (h : (s.writeTo answer file).2 = true) :
    (∃ p, file = some (.own p)) ∧ s.tracerAlive = false ∧ s.sigpipeKills = true := by
  unfold writeTo at h
  split at h
  · cases h
  · rename_i p
    split at h
    · cases h
    · rename_i hdead
      exact ⟨⟨p, rfl⟩, by simpa using hdead, h⟩
  · cases h

/-- A careful step keeps the process alive and its numbers owned, and touches only pipes. -/
theorem stepObs_owns {s s' : Published} {l : PublishLabel} {touches : List Touch}
    (h : s.OwnsItsNumbers) (hc : s.Careful l) (hs : s.stepObs l = some (s', touches)) :
    s'.OwnsItsNumbers ∧ s'.alive = s.alive ∧ ∀ o ∈ touches, o.harmless = true := by
  unfold stepObs at hs
  split at hs
  · cases hs
  cases l with
  | install fd file =>
    obtain ⟨hfd, he⟩ := Option.ite_none_right_eq_some.mp hs
    cases he
    exact ⟨h.install hfd hc, rfl, nofun⟩
  | close fd =>
    cases hs
    exact ⟨h.close fd, rfl, nofun⟩
  | sigpipe kills =>
    cases hs
    exact ⟨⟨h.negative, h.owned⟩, rfl, nofun⟩
  | tracerDies =>
    cases hs
    exact ⟨⟨h.negative, h.owned⟩, rfl, nofun⟩
  | load t pipe =>
    dsimp only at hs
    split at hs
    · cases hs
    · split_ifs at hs <;> cases hs
      · exact ⟨h, rfl, nofun⟩
      · refine ⟨h.setPublishing ?_, rfl, nofun⟩
        rintro fd (hx | ⟨p, hx⟩)
        · cases hx
        · cases hx
          exact Or.inl ⟨pipe, rfl⟩
  | write t answer =>
    dsimp only at hs
    split at hs
    · rename_i pipe fd hp
      have hu : s.InUse fd := Or.inr ⟨t, Or.inl ⟨pipe, hp⟩⟩
      split_ifs at hs with hkill hretires
      · obtain ⟨hown, hdead, hkills⟩ := writeTo_killed hkill
        rcases hc pipe fd hp hown with ha | ha
        · rw [ha] at hdead
          cases hdead
        · rw [ha] at hkills
          cases hkills
      · cases hs
        refine ⟨h.setPublishing ?_, rfl, toList_harmless (fun _ => rfl) (h.owned fd hu)⟩
        rintro fd' (hx | ⟨_, hx⟩) <;> cases hx
      · cases hs
        refine ⟨h.setPublishing ?_, rfl, toList_harmless (fun _ => rfl) (h.owned fd hu)⟩
        rintro fd' (hx | ⟨_, hx⟩) <;> cases hx
    · cases hs
  | exchange t =>
    dsimp only at hs
    split at hs
    · rename_i pipe fd hp
      split_ifs at hs with he
      · cases hs
        subst he
        exact ⟨h.exchange t pipe, rfl, nofun⟩
      · cases hs
        refine ⟨h.setPublishing ?_, rfl, nofun⟩
        rintro fd' (hx | ⟨_, hx⟩) <;> cases hx
    · cases hs
  | retire t =>
    dsimp only at hs
    split at hs
    · rename_i fd hp
      cases hs
      have hu : s.InUse fd := Or.inr ⟨t, Or.inr hp⟩
      have hidle : (s.setPublishing t none).OwnsItsNumbers := by
        refine h.setPublishing ?_
        rintro fd' (hx | ⟨_, hx⟩) <;> cases hx
      exact ⟨hidle.close fd, rfl, toList_harmless (fun _ => rfl) (h.owned fd hu)⟩
    · cases hs

theorem Started.owns {s : Published} (h : s.Started) : s.OwnsItsNumbers := by
  refine ⟨h.negative, ?_⟩
  rintro fd (⟨pipe, rfl⟩ | ⟨t, ⟨pipe, ht⟩ | ht⟩) file hf
  · rw [h.ends pipe] at hf
    cases hf
    rfl
  · rw [h.publishing t] at ht
    cases ht
  · rw [h.publishing t] at ht
    cases ht

/-! ### What a careless step leads to -/

/-- Some run from `s` touches what is not cudatrace's, or kills the process. -/
def Harms (s : Published) : Prop :=
  ∃ s' w, (publishedFrom (· = s)).Trace (fun _ _ => True) touched s' w ∧
    ∃ o ∈ w, o.harmless = false

theorem Harms.of_touch {s s' : Published} {l : PublishLabel} {touches : List Touch}
    (hs : s.stepObs l = some (s', touches)) (ho : ∃ o ∈ touches, o.harmless = false) :
    s.Harms := by
  have hstep : s.step l = some s' := by rw [step, hs, Option.map_some]
  have hobs : touched s l s' = touches := by rw [touched, hs, Option.map_some, Option.getD_some]
  have hrun : (publishedFrom (· = s)).Trace (fun _ _ => True) touched s' ([] ++ touched s l s') :=
    .step (.start rfl) trivial hstep
  rw [hobs, List.nil_append] at hrun
  exact ⟨s', touches, hrun, ho⟩

theorem Harms.of_step {s s' : Published} {l : PublishLabel} (hs : s.step l = some s')
    (h : s'.Harms) : s.Harms := by
  obtain ⟨s'', w, hrun, ho⟩ := h
  have hfrom : ∃ w', (publishedFrom (· = s)).Trace (fun _ _ => True) touched s'' w' ∧
      ∀ o ∈ w, o ∈ w' := by
    clear ho
    induction hrun with
    | start h0 =>
      subst h0
      exact ⟨_, .step (.start rfl) trivial hs, nofun⟩
    | step _ hok hst ih =>
      obtain ⟨w', hrun', hsub⟩ := ih
      refine ⟨_, .step hrun' hok hst, fun o ho => ?_⟩
      rcases List.mem_append.mp ho with ho | ho
      · exact List.mem_append_left _ (hsub o ho)
      · exact List.mem_append_right _ ho
  obtain ⟨w', hrun', hsub⟩ := hfrom
  obtain ⟨o, hmem, hharm⟩ := ho
  exact ⟨s'', w', hrun', o, hsub o hmem, hharm⟩

/-- A thread that is to write to a number of the program's does so. -/
theorem harms_of_loaded {s : Published} {t : Pid} {pipe : Pipe} {fd : I32} {file : OpenFile}
    (ha : s.alive = true) (ht : s.publishing t = some (.loaded pipe fd))
    (hf : s.fds fd = some file) (hfile : file.isOwn = false) : s.Harms := by
  obtain ⟨id, rfl⟩ : ∃ id, file = .other id := by
    cases file with
    | own p => cases hfile
    | other id => exact ⟨id, rfl⟩
  have hs : s.stepObs (.write t (.count 0)) =
      some (s.setPublishing t none, [.wrote (.other id)]) := by
    unfold stepObs
    simp only [ha, ht, hf, writeTo, retires, Bool.not_true, Bool.false_eq_true, if_false,
      Option.toList_some, List.map_cons, List.map_nil]
  exact .of_touch hs ⟨_, List.mem_singleton.mpr rfl, rfl⟩

theorem harms_of_exchanged {s : Published} {t : Pid} {fd : I32} {file : OpenFile}
    (ha : s.alive = true) (ht : s.publishing t = some (.exchanged fd))
    (hf : s.fds fd = some file) (hfile : file.isOwn = false) : s.Harms := by
  have hs : s.stepObs (.retire t) =
      some ({ s.setPublishing t none with fds := Function.update s.fds fd none },
        [.closed file]) := by
    unfold stepObs
    simp only [ha, ht, hf, Bool.not_true, Bool.false_eq_true, if_false, Option.toList_some,
      List.map_cons, List.map_nil]
  exact .of_touch hs ⟨_, List.mem_singleton.mpr rfl, hfile⟩

theorem harms_of_stored {s : Published} {t : Pid} {pipe : Pipe} {file : OpenFile}
    (ha : s.alive = true) (ht : s.publishing t = none) (hfd : 0 ≤ (s.wrFd pipe).toInt)
    (hf : s.fds (s.wrFd pipe) = some file) (hfile : file.isOwn = false) : s.Harms := by
  have hs : s.step (.load t pipe) =
      some (s.setPublishing t (some (.loaded pipe (s.wrFd pipe)))) := by
    unfold step stepObs
    simp only [ha, ht, Bool.not_true, Bool.false_eq_true, if_false, if_neg (not_lt.mpr hfd),
      Option.map_some]
  exact .of_step hs (harms_of_loaded ha (setPublishing_self _ _ _) hf hfile)

theorem harms_of_careless {s s' : Published} {l : PublishLabel} (hs : s.step l = some s')
    (hc : ¬ s.Careful l) (hidle : ∃ t, s.publishing t = none) : s.Harms := by
  have ha : s.alive = true := by
    by_contra hdead
    rw [Bool.not_eq_true] at hdead
    unfold step stepObs at hs
    rw [hdead] at hs
    cases hs
  cases l with
  | install fd file =>
    obtain ⟨hfile, hu⟩ := not_or.mp hc
    rw [Bool.not_eq_true] at hfile
    rw [not_not] at hu
    have hinstalled := hs
    rw [step, stepObs, ha] at hs
    obtain ⟨p, hp, rfl⟩ := Option.map_eq_some_iff.mp hs
    obtain ⟨hfd, he⟩ := Option.ite_none_right_eq_some.mp hp
    cases he
    have hf : Function.update s.fds fd (some file) fd = some file := Function.update_self _ _ _
    refine .of_step hinstalled ?_
    rcases hu with ⟨pipe, rfl⟩ | ⟨t, ⟨pipe, ht⟩ | ht⟩
    · obtain ⟨t, ht⟩ := hidle
      exact harms_of_stored rfl ht hfd hf hfile
    · exact harms_of_loaded rfl ht hf hfile
    · exact harms_of_exchanged rfl ht hf hfile
  | write t answer =>
    unfold Careful at hc
    push Not at hc
    obtain ⟨pipe, fd, ht, ⟨p, hown⟩, hdead, hkills⟩ := hc
    rw [Ne, Bool.not_eq_true] at hdead
    rw [Ne, Bool.not_eq_false] at hkills
    have hobs : s.stepObs (.write t answer) = some ({ s with alive := false }, [.killed]) := by
      unfold stepObs
      simp only [ha, ht, hown, writeTo, hdead, hkills, Bool.not_true, Bool.false_eq_true,
        if_false, if_true]
    exact .of_touch hobs ⟨_, List.mem_singleton.mpr rfl, rfl⟩
  | _ => exact absurd trivial hc

end Published

/-- In every run whose steps are careful, publishing writes to and closes nothing but the
pipes of cudatrace and the process lives; a step that is not careful can end in harm. -/
theorem publishing_is_harmless (s : Published) :
    (∀ w, published.Trace Published.Careful Published.touched s w → ∀ o ∈ w, o.harmless = true) ∧
    ∀ s' l, s.step l = some s' → ¬ s.Careful l → (∃ t, s.publishing t = none) → s.Harms := by
  refine ⟨fun w h => ?_, fun s' l hs hc hidle => Published.harms_of_careless hs hc hidle⟩
  have hall : s.OwnsItsNumbers ∧ ∀ o ∈ w, o.harmless = true := by
    induction h with
    | start h0 => exact ⟨h0.owns, nofun⟩
    | step _ hok hs ih =>
      obtain ⟨⟨s', touches⟩, hobs, rfl⟩ := Option.map_eq_some_iff.mp hs
      obtain ⟨hown, -, htouch⟩ := Published.stepObs_owns ih.1 hok hobs
      refine ⟨hown, fun o ho => ?_⟩
      rcases List.mem_append.mp ho with ho | ho
      · exact ih.2 o ho
      · unfold Published.touched at ho
        rw [hobs] at ho
        exact htouch o ho
  exact hall.2

/-- Descriptors 5 and 6 are the pipes of a process whose tracer reads them. -/
def publishedStart : Published where
  fds fd := if fd = 5 then some (.own .depth) else if fd = 6 then some (.own .window) else none
  wrFd
    | .depth => 5
    | .window => 6
  publishing _ := none
  tracerAlive := true
  sigpipeKills := true
  alive := true

theorem publishedStart_started : publishedStart.Started where
  negative fd hneg := by
    have h5 : fd ≠ 5 := by
      rintro rfl
      exact absurd hneg (by decide)
    have h6 : fd ≠ 6 := by
      rintro rfl
      exact absurd hneg (by decide)
    exact (if_neg h5).trans (if_neg h6)
  ends pipe := by cases pipe <;> rfl
  publishing _ := rfl

theorem publishing_is_harmless_start :
    publishedStart.Started ∧ (∀ o ∈ [Touch.wrote (.own .depth)], o.harmless = true) ∧
      publishedStart.Harms := by
  let loaded := publishedStart.setPublishing 7 (some (.loaded .depth 5))
  let written := loaded.setPublishing 7 none
  have hstart : published.Trace Published.Careful Published.touched publishedStart [] :=
    .start publishedStart_started
  have hload : published.Trace Published.Careful Published.touched loaded [] :=
    hstart.step (l := PublishLabel.load 7 .depth) trivial rfl
  have hrun : published.Trace Published.Careful Published.touched written
      [Touch.wrote (.own .depth)] :=
    hload.step (l := PublishLabel.write 7 (.count 8)) (fun _ _ _ _ => Or.inl rfl) rfl
  refine ⟨publishedStart_started, (publishing_is_harmless _).1 _ hrun,
    (publishing_is_harmless _).2 _ (.install 5 (.other 1)) rfl ?_ ⟨7, rfl⟩⟩
  rintro (h | h)
  · cases h
  · exact h (Or.inl ⟨.depth, rfl⟩)

/-- A close-all loop, then a file of the program on one of the numbers, then a hooked call; and
a hooked call after the tracer has died. -/
theorem publishing_harms :
    (∃ s, published.Trace (fun _ _ => True) Published.touched s [.wrote (.other 1)]) ∧
    (∃ s, published.Trace (fun _ _ => True) Published.touched s [.killed] ∧ s.alive = false) := by
  have hstart : published.Trace (fun _ _ => True) Published.touched publishedStart [] :=
    .start publishedStart_started
  constructor
  · exact ⟨_, @System.Trace.of_foldlM _ _ _ published (fun _ _ => True) Published.touched
      Published.step (fun _ _ _ h => ⟨trivial, h⟩) (publishedStart, []) _
      [.close 5, .close 6, .install 5 (.other 1), .load 7 .depth, .write 7 (.count 8)] hstart rfl⟩
  · exact ⟨_, @System.Trace.of_foldlM _ _ _ published (fun _ _ => True) Published.touched
      Published.step (fun _ _ _ h => ⟨trivial, h⟩) (publishedStart, []) _
      [.tracerDies, .load 7 .depth, .write 7 (.count 8)] hstart rfl, rfl⟩

end CudaTrace.Hook
