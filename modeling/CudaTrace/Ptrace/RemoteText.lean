import CudaTrace.Base.Utf8Cut
import CudaTrace.Ptrace.SyscallLine

/-!
# Texts read from the traced task (ptrace.rs)

`process_vm_readv` copies the longest prefix of a range that can be read. What the chunk loop
of `read_remote_cstring` and the previews of buffers make of it is stated over that prefix.
-/

namespace CudaTrace.Decode
open CudaTrace.Base.Checked

/-- The longest prefix of `len` bytes from `addr` on that can be read. -/
def Target.readable (t : Target) : ℕ → ℕ → List UInt8
  | _, 0 => []
  | addr, len + 1 =>
    if addr < usizeLimit then
      match t.byte addr with
      | some b => b :: t.readable (addr + 1) len
      | none => []
    else []

namespace Target
variable {t : Target} {addr len : ℕ} {b : UInt8}

@[simp] theorem readable_zero (t : Target) (addr : ℕ) : t.readable addr 0 = [] := rfl

theorem readable_succ (t : Target) (addr len : ℕ) :
    t.readable addr (len + 1) =
      if addr < usizeLimit then
        match t.byte addr with
        | some b => b :: t.readable (addr + 1) len
        | none => []
      else [] :=
  rfl

theorem length_readable_le (t : Target) (addr len : ℕ) : (t.readable addr len).length ≤ len := by
  induction len generalizing addr with
  | zero => simp
  | succ len ih =>
    have hrest := ih (addr + 1)
    rw [readable_succ]
    split
    · split
      · simpa using hrest
      · simp
    · simp

/-- The longest prefix of a longer range: it goes on behind the shorter one if all of that can
be read, and ends with it otherwise. -/
theorem readable_add (t : Target) (addr len more : ℕ) :
    t.readable addr (len + more) =
      if (t.readable addr len).length = len then
        t.readable addr len ++ t.readable (addr + len) more
      else t.readable addr len := by
  induction len generalizing addr with
  | zero => simp
  | succ len ih =>
    rw [Nat.add_right_comm, readable_succ, readable_succ]
    split
    · cases t.byte addr with
      | none => simp
      | some b =>
        dsimp only
        rw [ih (addr + 1), List.length_cons, Nat.add_assoc addr 1 len, Nat.add_comm 1 len]
        split_ifs with hfull hsucc
        · rfl
        · omega
        · omega
        · rfl
    · simp

theorem bytes_readable (t : Target) (addr len : ℕ) :
    t.bytes addr (t.readable addr len).length = some (t.readable addr len) := by
  induction len generalizing addr with
  | zero => rfl
  | succ len ih =>
    rw [readable_succ]
    split
    · rename_i hlt
      cases hbyte : t.byte addr with
      | none => rfl
      | some b => simp [bytes, hlt, hbyte, ih (addr + 1)]
    · rfl

theorem readable_ne_nil (h : t.readable addr len ≠ []) : addr < usizeLimit := by
  cases len with
  | zero => exact absurd rfl h
  | succ len =>
    by_contra hlt
    exact h (if_neg hlt)

theorem readable_end (t : Target) (addr len : ℕ) (haddr : addr < usizeLimit) :
    addr + (t.readable addr len).length ≤ usizeLimit := by
  induction len generalizing addr with
  | zero => simpa using haddr.le
  | succ len ih =>
    rw [readable_succ, if_pos haddr]
    cases t.byte addr with
    | none => simpa using haddr.le
    | some b =>
      by_cases hnext : addr + 1 < usizeLimit
      · have hrest := ih (addr + 1) hnext
        rw [List.length_cons]
        omega
      · have hnil : t.readable (addr + 1) len = [] := by
          by_contra hne
          exact hnext (readable_ne_nil hne)
        simp only [hnil, List.length_cons, List.length_nil]
        omega

theorem readable_top (h : t.byte (usizeLimit - 1) = some b) (hlen : 0 < len) :
    t.readable (usizeLimit - 1) len = [b] := by
  obtain ⟨len, rfl⟩ : ∃ n, len = n + 1 := ⟨len - 1, by omega⟩
  have hnil : t.readable usizeLimit len = [] := by
    by_contra hne
    exact absurd (readable_ne_nil hne) (by omega)
  have hlimit : usizeLimit - 1 + 1 = usizeLimit := rfl
  rw [readable_succ, if_pos (by decide), h, hlimit, hnil]

theorem getLast?_readable (hlen : 0 < len) (hfull : (t.readable addr len).length = len) :
    t.byte (addr + len - 1) = (t.readable addr len).getLast? := by
  obtain ⟨len, rfl⟩ : ∃ n, len = n + 1 := ⟨len - 1, by omega⟩
  have hle := t.length_readable_le addr len
  have hsplit := t.readable_add addr len 1
  rw [hsplit] at hfull ⊢
  split_ifs at hfull ⊢ with hfirst
  · rw [List.length_append, hfirst] at hfull
    rw [List.getLast?_append, show addr + (len + 1) - 1 = addr + len by omega]
    rw [readable_succ] at hfull ⊢
    split_ifs at hfull ⊢ with hlt
    · cases hbyte : t.byte (addr + len) with
      | none =>
        rw [hbyte] at hfull
        simp at hfull
      | some b => simp
    · simp at hfull
  · omega

end Target

end CudaTrace.Decode

namespace CudaTrace.Ptrace
open CudaTrace.Base CudaTrace.Base.Checked CudaTrace.Decode

/-- `process_vm_readv` copies the longest prefix that can be read (and fails, or copies nothing,
when that is empty). -/
def Copies (env : Env) (pid : Pid) (t : Target) : Prop :=
  ∀ addr len, (env.processVmReadv pid addr len).getD [] = t.readable addr.toNat len

theorem readRemoteBytes_of_copies {env : Env} {pid : Pid} {t : Target} (h : Copies env pid t)
    (addr : U64) {len : ℕ} (hlen : 0 < len) :
    readRemoteBytes env pid addr len =
      if t.readable addr.toNat len = [] then none else some (t.readable addr.toNat len) := by
  have hcopy := h addr len
  have hbound := t.length_readable_le addr.toNat len
  unfold readRemoteBytes
  rw [if_neg (by omega)]
  cases hread : env.processVmReadv pid addr len with
  | none =>
    rw [hread, Option.getD_none] at hcopy
    simp [← hcopy]
  | some bytes =>
    rw [hread, Option.getD_some] at hcopy
    rw [← hcopy] at hbound ⊢
    simp [List.take_of_length_le hbound]

/-! ### Strings -/

/-- All bytes from `cursor` to the end of the address space can be read, they hold no NUL, they
fill whole chunks, and there is room for more. -/
def FillsToTop (t : Target) (cursor room : ℕ) : Prop :=
  usizeLimit - cursor < room ∧ (usizeLimit - cursor) % cstringChunk = 0 ∧
    (t.readable cursor (usizeLimit - cursor)).length = usizeLimit - cursor ∧
    0 ∉ t.readable cursor (usizeLimit - cursor)

/-- A chunk that can be read whole and holds no NUL keeps the situation. -/
theorem fillsToTop_step {t : Target} {cursor room : ℕ} (hcursor : cursor + cstringChunk < usizeLimit)
    (hroom : cstringChunk ≤ room)
    (hfull : (t.readable cursor cstringChunk).length = cstringChunk)
    (hnul : 0 ∉ t.readable cursor cstringChunk) :
    FillsToTop t cursor room ↔ FillsToTop t (cursor + cstringChunk) (room - cstringChunk) := by
  have hchunk : cstringChunk = 256 := rfl
  have hsplit : usizeLimit - cursor = cstringChunk + (usizeLimit - (cursor + cstringChunk)) := by omega
  have hread := t.readable_add cursor cstringChunk (usizeLimit - (cursor + cstringChunk))
  rw [if_pos hfull] at hread
  unfold FillsToTop
  rw [hsplit, hread, List.length_append, hfull, List.mem_append, not_or, Nat.add_mod_left]
  constructor
  · rintro ⟨h1, h2, h3, _, h4⟩
    exact ⟨by omega, h2, by omega, h4⟩
  · rintro ⟨h1, h2, h3, h4⟩
    exact ⟨by omega, h2, by omega, hnul, h4⟩

section Loop
variable {env : Env} {pid : Pid} {t : Target}

/-- One turn of the loop with room for a whole chunk. -/
theorem readCstringLoop_turn (hcopy : Copies env pid t) (fuel : ℕ) (cursor : U64)
    (out : List UInt8) (hroom : cstringChunk ≤ cstringMaxLen - out.length) :
    readCstringLoop env pid (fuel + 1) cursor out =
      if (t.readable cursor.toNat cstringChunk).length = cstringChunk ∧
          0 ∉ t.readable cursor.toNat cstringChunk then
        readCstringLoop env pid fuel (saturatingAdd cursor cstringChunk)
          (out ++ t.readable cursor.toNat cstringChunk)
      else (out ++ (t.readable cursor.toNat cstringChunk).takeWhile (· ≠ 0),
        (t.readable cursor.toNat cstringChunk).contains 0) := by
  have hchunk : cstringChunk = 256 := rfl
  have hwant : min (cstringMaxLen - out.length) cstringChunk = cstringChunk := by omega
  have hle := t.length_readable_le cursor.toNat cstringChunk
  rw [readCstringLoop, if_pos (by omega)]
  dsimp only
  rw [hwant, readRemoteBytes_of_copies hcopy cursor (by omega)]
  generalize t.readable cursor.toNat cstringChunk = chunk at *
  by_cases hnil : chunk = []
  · simp [hnil, hchunk]
  · rw [if_neg hnil]
    dsimp only
    rw [if_neg (by simpa using hnil)]
    by_cases hnul : 0 ∈ chunk
    · simp [hnul]
    · have hall : chunk.takeWhile (· ≠ 0) = chunk := by
        rw [List.takeWhile_eq_self_iff]
        intro x hx
        simpa using ne_of_mem_of_not_mem hx hnul
      rw [if_neg (by simpa using hnul), hall]
      by_cases hshort : chunk.length < cstringChunk
      · rw [if_pos hshort, if_neg (by omega)]
        simp [hnul]
      · have hfull : chunk.length = cstringChunk := by omega
        rw [if_neg hshort, if_pos ⟨hfull, hnul⟩, hfull]

/-- A chunk that is not whole, or holds a NUL, decides about the longer range. -/
theorem readable_stop {cursor len more : ℕ}
    (hstop : ¬ ((t.readable cursor len).length = len ∧ 0 ∉ t.readable cursor len)) :
    (t.readable cursor (len + more)).takeWhile (· ≠ 0) =
        (t.readable cursor len).takeWhile (· ≠ 0) ∧
      (t.readable cursor (len + more)).contains 0 = (t.readable cursor len).contains 0 := by
  rw [t.readable_add]
  split_ifs with hfull
  · have hnul : 0 ∈ t.readable cursor len := by
      by_contra hnul
      exact hstop ⟨hfull, hnul⟩
    constructor
    · rw [List.takeWhile_append, if_neg]
      intro hlen
      have hall := List.takeWhile_eq_self_iff.mp ((List.takeWhile_prefix _).eq_of_length hlen)
      simpa using hall 0 hnul
    · simp [hnul]
  · exact ⟨rfl, rfl⟩

theorem saturatingAdd_below {cursor : U64} {n : ℕ} (h : cursor.toNat + n < usizeLimit) :
    (saturatingAdd cursor n).toNat = cursor.toNat + n := by
  have hlimit : usizeLimit = 2 ^ 64 := rfl
  rw [saturatingAdd, if_pos (by omega), BitVec.toNat_add, BitVec.toNat_ofNat]
  omega

/-- The loop reads up to the first NUL of what can be read, or all of it, unless its cursor runs
into the end of the address space. The induction is on the turns, with whole chunks before. -/
theorem readCstringLoop_eq (hcopy : Copies env pid t) (fuel : ℕ) (cursor : U64) (out : List UInt8)
    (hwhole : (cstringMaxLen - out.length) % cstringChunk = 0)
    (hfuel : cstringMaxLen - out.length ≤ cstringChunk * fuel)
    (htop : ¬ FillsToTop t cursor.toNat (cstringMaxLen - out.length)) :
    readCstringLoop env pid fuel cursor out =
      (out ++ (t.readable cursor.toNat (cstringMaxLen - out.length)).takeWhile (· ≠ 0),
        (t.readable cursor.toNat (cstringMaxLen - out.length)).contains 0) := by
  have hchunk : cstringChunk = 256 := rfl
  have hlimit : usizeLimit = 2 ^ 64 := rfl
  induction fuel generalizing cursor out with
  | zero =>
    have hroom : cstringMaxLen - out.length = 0 := by omega
    simp [readCstringLoop, hroom]
  | succ fuel ih =>
    by_cases hmore : cstringMaxLen - out.length = 0
    · simp [readCstringLoop, hmore, show ¬ out.length < cstringMaxLen by omega]
    · obtain ⟨room, hroom⟩ : ∃ room, cstringMaxLen - out.length = cstringChunk + room := by
        rw [hchunk] at hwhole ⊢
        exact ⟨cstringMaxLen - out.length - 256, by omega⟩
      rw [readCstringLoop_turn hcopy fuel cursor out (by omega)]
      split_ifs with hgo
      · obtain ⟨hfull, hnul⟩ := hgo
        have hleft : cstringMaxLen - (out ++ t.readable cursor.toNat cstringChunk).length = room := by
          rw [List.length_append, hfull]
          omega
        have hlt : cursor.toNat < usizeLimit := cursor.isLt
        have hend := t.readable_end cursor.toNat cstringChunk hlt
        have hsplit := t.readable_add cursor.toNat cstringChunk room
        rw [if_pos hfull] at hsplit
        have hall : (t.readable cursor.toNat cstringChunk).takeWhile (· ≠ 0) =
            t.readable cursor.toNat cstringChunk := by
          rw [List.takeWhile_eq_self_iff]
          intro x hx
          simpa using ne_of_mem_of_not_mem hx hnul
        rw [hroom] at htop ⊢
        have hboth : (t.readable cursor.toNat (cstringChunk + room)).takeWhile (· ≠ 0) =
              t.readable cursor.toNat cstringChunk ++
                (t.readable (cursor.toNat + cstringChunk) room).takeWhile (· ≠ 0) ∧
            (t.readable cursor.toNat (cstringChunk + room)).contains 0 =
              (t.readable (cursor.toNat + cstringChunk) room).contains 0 := by
          rw [hsplit]
          constructor
          · rw [List.takeWhile_append, hall, if_pos rfl]
          · simp [hnul]
        rw [hboth.1, hboth.2, ← List.append_assoc]
        by_cases hbelow : cursor.toNat + cstringChunk < usizeLimit
        · have hnext := saturatingAdd_below hbelow
          have hwhole' : room % cstringChunk = 0 := by
            rwa [hroom, Nat.add_mod_left] at hwhole
          have hfuel' : room ≤ cstringChunk * fuel := by
            rw [hroom, Nat.mul_succ] at hfuel
            omega
          have htop' : ¬ FillsToTop t (cursor.toNat + cstringChunk) room := by
            rwa [fillsToTop_step hbelow (by omega) hfull hnul, Nat.add_sub_cancel_left] at htop
          rw [← hleft, ← hnext] at htop'
          rw [← hleft] at hwhole' hfuel'
          rw [ih _ _ hwhole' hfuel' htop', hleft, hnext]
        · -- the chunk ends with the address space: it was the last one
          have hzero : room = 0 := by
            by_contra hne
            refine htop ⟨by omega, ?_, ?_, ?_⟩
            all_goals rw [show usizeLimit - cursor.toNat = cstringChunk by omega]
            · exact Nat.mod_self _
            · exact hfull
            · exact hnul
          have hdone : ¬ (out ++ t.readable cursor.toNat cstringChunk).length < cstringMaxLen := by
            omega
          cases fuel with
          | zero => simp [readCstringLoop, hzero]
          | succ fuel =>
            rw [readCstringLoop, if_neg hdone]
            simp [hzero]
      · obtain ⟨htake, hcontains⟩ := @readable_stop t cursor.toNat cstringChunk room hgo
        rw [hroom, htake, hcontains]

/-- Where the cursor runs into the end of the address space, the last byte is read once more. -/
theorem readCstringLoop_top (hcopy : Copies env pid t) (fuel : ℕ) (cursor : U64) (out : List UInt8)
    (hwhole : (cstringMaxLen - out.length) % cstringChunk = 0)
    (hfuel : cstringMaxLen - out.length ≤ cstringChunk * fuel)
    (htop : FillsToTop t cursor.toNat (cstringMaxLen - out.length)) :
    ∃ b, (t.readable cursor.toNat (usizeLimit - cursor.toNat)).getLast? = some b ∧
      readCstringLoop env pid fuel cursor out =
        (out ++ t.readable cursor.toNat (usizeLimit - cursor.toNat) ++ [b], false) := by
  have hchunk : cstringChunk = 256 := rfl
  have hlimit : usizeLimit = 2 ^ 64 := rfl
  induction fuel generalizing cursor out with
  | zero =>
    have hlt := htop.1
    omega
  | succ fuel ih =>
    have hlt : cursor.toNat < usizeLimit := cursor.isLt
    obtain ⟨hroom, hmod, hlen, hnul⟩ := id htop
    rw [hchunk] at hmod hwhole
    obtain ⟨left, hleft⟩ : ∃ left, usizeLimit - cursor.toNat = cstringChunk + left :=
      ⟨usizeLimit - cursor.toNat - 256, by omega⟩
    have hsplit := t.readable_add cursor.toNat cstringChunk left
    have hfull : (t.readable cursor.toNat cstringChunk).length = cstringChunk := by
      by_contra hshort
      rw [hleft, hsplit, if_neg hshort] at hlen
      have hle := t.length_readable_le cursor.toNat cstringChunk
      omega
    rw [if_pos hfull] at hsplit
    have hfirst : 0 ∉ t.readable cursor.toNat cstringChunk := by
      rw [hleft, hsplit, List.mem_append, not_or] at hnul
      exact hnul.1
    rw [readCstringLoop_turn hcopy fuel cursor out (by omega), if_pos ⟨hfull, hfirst⟩]
    have hout : cstringMaxLen - (out ++ t.readable cursor.toNat cstringChunk).length =
        cstringMaxLen - out.length - cstringChunk := by
      rw [List.length_append, hfull]
      omega
    have hwhole' : (cstringMaxLen - (out ++ t.readable cursor.toNat cstringChunk).length) %
        cstringChunk = 0 := by
      rw [hout, hchunk]
      omega
    have hfuel' : cstringMaxLen - (out ++ t.readable cursor.toNat cstringChunk).length ≤
        cstringChunk * fuel := by
      rw [hout, hchunk]
      rw [hchunk] at hfuel
      omega
    by_cases hbelow : cursor.toNat + cstringChunk < usizeLimit
    · have hnext := saturatingAdd_below hbelow
      have htop' : FillsToTop t (saturatingAdd cursor cstringChunk).toNat
          (cstringMaxLen - (out ++ t.readable cursor.toNat cstringChunk).length) := by
        rw [hout, hnext]
        exact (fillsToTop_step hbelow (by omega) hfull hfirst).mp htop
      obtain ⟨b, hlast, hrun⟩ := ih _ _ hwhole' hfuel' htop'
      have hrest : usizeLimit - (saturatingAdd cursor cstringChunk).toNat = left := by omega
      rw [hrest, hnext] at hlast hrun
      refine ⟨b, ?_, ?_⟩
      · rw [hleft, hsplit, List.getLast?_append, hlast]
        rfl
      · rw [hrun, hleft, hsplit]
        simp
    · have hend : usizeLimit - cursor.toNat = cstringChunk := by omega
      have hlast : ∃ b, (t.readable cursor.toNat cstringChunk).getLast? = some b := by
        cases hlast : (t.readable cursor.toNat cstringChunk).getLast? with
        | some b => exact ⟨b, rfl⟩
        | none =>
          rw [List.getLast?_eq_none_iff] at hlast
          rw [hlast, List.length_nil] at hfull
          omega
      obtain ⟨b, hb⟩ := hlast
      have hbyte := Target.getLast?_readable (by omega) hfull
      have hcursor : saturatingAdd cursor cstringChunk = BitVec.allOnes 64 := by
        rw [saturatingAdd, if_neg (by omega)]
      have htoNat : (saturatingAdd cursor cstringChunk).toNat = usizeLimit - 1 := by
        rw [hcursor]
        rfl
      rw [hb, show cursor.toNat + cstringChunk - 1 = usizeLimit - 1 by omega] at hbyte
      have hread : t.readable (usizeLimit - 1) cstringChunk = [b] :=
        Target.readable_top hbyte (by omega)
      have hne : b ≠ 0 := by
        rintro rfl
        exact hfirst (List.mem_of_getLast? hb)
      obtain ⟨fuel, rfl⟩ : ∃ k, fuel = k + 1 := by
        refine ⟨fuel - 1, ?_⟩
        by_contra hzero
        have hnone : fuel = 0 := by omega
        rw [hnone] at hfuel'
        omega
      refine ⟨b, by rwa [hend], ?_⟩
      rw [readCstringLoop_turn hcopy fuel _ _ (by omega), htoNat, hread, hend, if_neg]
      · simp [hne, hne.symm]
      · simp [hchunk]

end Loop

/-- The text of the string at an address: what can be read up to its first NUL. -/
def cstringAt (t : Target) (addr : U64) : String :=
  if t.readable addr.toNat cstringMaxLen = [] then "<unreadable@0x" ++ toHex addr.toNat ++ ">"
  else fromUtf8Lossy ((t.readable addr.toNat cstringMaxLen).takeWhile (· ≠ 0))

/-- The bytes up to the end of the address space are all read, without a NUL, in whole chunks
with room for more, and do not end with the first two bytes of a four byte sequence. -/
def RepeatsLast (t : Target) (addr : U64) : Prop :=
  FillsToTop t addr.toNat cstringMaxLen ∧
    ¬ ∃ before lead b, t.readable addr.toNat (usizeLimit - addr.toNat) = before ++ [lead] ++ [b] ∧
      0xf0 ≤ lead ∧ secondByteOk lead b = true

section
variable {env : Env} {pid : Pid} {t : Target} {addr : U64}

theorem readRemoteCstring_below (hcopy : Copies env pid t) (haddr : addr ≠ 0)
    (htop : ¬ FillsToTop t addr.toNat cstringMaxLen) :
    readRemoteCstring env pid addr = cstringAt t addr := by
  have hrun := readCstringLoop_eq hcopy cstringMaxLen addr [] (by decide) (by decide) htop
  simp only [List.length_nil, Nat.sub_zero, List.nil_append] at hrun
  rw [readRemoteCstring, if_neg haddr, hrun, cstringAt]
  dsimp only
  generalize t.readable addr.toNat cstringMaxLen = bytes
  cases bytes with
  | nil => simp
  | cons b bytes =>
    by_cases hb : b = 0
    · simp [hb]
    · simp [hb]

theorem readRemoteCstring_top (hcopy : Copies env pid t) (haddr : addr ≠ 0)
    (htop : FillsToTop t addr.toNat cstringMaxLen) :
    ∃ before b, t.readable addr.toNat (usizeLimit - addr.toNat) = before ++ [b] ∧
      readRemoteCstring env pid addr = fromUtf8Lossy (before ++ [b] ++ [b]) ∧
      cstringAt t addr = fromUtf8Lossy (before ++ [b]) := by
  obtain ⟨b, hlast, hrun⟩ :=
    readCstringLoop_top hcopy cstringMaxLen addr [] (by decide) (by decide) htop
  obtain ⟨hroom, _, hlen, hnul⟩ := htop
  obtain ⟨before, hbytes⟩ := List.getLast?_eq_some_iff.mp hlast
  have hlt : addr.toNat < usizeLimit := addr.isLt
  have hnil : t.readable usizeLimit (cstringMaxLen - (usizeLimit - addr.toNat)) = [] := by
    by_contra hne
    exact absurd (Target.readable_ne_nil hne) (by omega)
  have hsplit := t.readable_add addr.toNat (usizeLimit - addr.toNat)
    (cstringMaxLen - (usizeLimit - addr.toNat))
  rw [if_pos hlen, Nat.add_sub_cancel' hroom.le, Nat.add_sub_cancel' hlt.le, hnil, List.append_nil,
    hbytes] at hsplit
  rw [hbytes] at hnul hrun
  have hall : (before ++ [b]).takeWhile (· ≠ 0) = before ++ [b] := by
    rw [List.takeWhile_eq_self_iff]
    intro x hx
    simpa using ne_of_mem_of_not_mem hx hnul
  refine ⟨before, b, hbytes, ?_, ?_⟩
  · rw [readRemoteCstring, if_neg haddr, hrun]
    simp
  · rw [cstringAt, hsplit, hall, if_neg (by simp)]

/-- The string is the text at the address, unless the last byte of the address space is read
twice. -/
theorem readRemoteCstring_iff (hcopy : Copies env pid t) (haddr : addr ≠ 0) :
    readRemoteCstring env pid addr = cstringAt t addr ↔ ¬ RepeatsLast t addr := by
  by_cases htop : FillsToTop t addr.toNat cstringMaxLen
  · obtain ⟨before, b, hbytes, hread, htext⟩ := readRemoteCstring_top hcopy haddr htop
    rw [hread, htext, fromUtf8Lossy_repeat, RepeatsLast, hbytes, and_iff_right htop, not_not]
    constructor
    · rintro ⟨first, lead, rfl, hhigh, hok⟩
      exact ⟨first, lead, b, rfl, hhigh, hok⟩
    · rintro ⟨first, lead, b', heq, hhigh, hok⟩
      obtain ⟨hfirst, hb⟩ := List.append_inj' heq rfl
      rw [List.cons.injEq] at hb
      exact ⟨first, lead, hfirst, hhigh, by rwa [hb.1]⟩
  · exact iff_of_true (readRemoteCstring_below hcopy haddr htop) fun h => htop h.1

end

/-- A kernel that reads a given memory. -/
def Env.reading (t : Target) : Env :=
  { Env.silent with processVmReadv := fun _ addr len => some (t.readable addr.toNat len) }

theorem copies_reading (t : Target) (pid : Pid) : Copies (Env.reading t) pid t := fun _ _ => rfl

/-- A memory with one text in it. -/
def memoryAt (start : ℕ) (bytes : List UInt8) : Target :=
  ⟨fun addr => if start ≤ addr then bytes[addr - start]? else none⟩

theorem readRemoteCstring_hi :
    readRemoteCstring (Env.reading (memoryAt 4096 [0x68, 0x69, 0, 0x21])) 1 4096 =
        cstringAt (memoryAt 4096 [0x68, 0x69, 0, 0x21]) 4096 ↔
      ¬ RepeatsLast (memoryAt 4096 [0x68, 0x69, 0, 0x21]) 4096 :=
  readRemoteCstring_iff (copies_reading _ 1) (by decide)

theorem readable_memoryAt (start : ℕ) (bytes : List UInt8) (h : start + bytes.length ≤ usizeLimit) :
    (memoryAt start bytes).readable start bytes.length = bytes := by
  have hfrom : ∀ n off, off + n = bytes.length →
      (memoryAt start bytes).readable (start + off) n = bytes.drop off := by
    intro n
    induction n with
    | zero =>
      intro off hoff
      rw [List.drop_of_length_le (by omega)]
      rfl
    | succ n ih =>
      intro off hoff
      have hlt : off < bytes.length := by omega
      have hbyte : (memoryAt start bytes).byte (start + off) = some bytes[off] := by
        simp [memoryAt, hlt]
      rw [Target.readable_succ, if_pos (by omega), hbyte, Nat.add_assoc, ih (off + 1) (by omega)]
      exact (List.drop_eq_getElem_cons hlt).symm
  simpa using hfrom bytes.length 0 (Nat.zero_add _)

/-- The last page of the address space holds the letter `a` in its last 256 bytes. -/
def topMemory : Target := memoryAt (usizeLimit - 256) (List.replicate 256 0x61)

/-- One letter too many is read from there. -/
theorem readRemoteCstring_topMemory :
    readRemoteCstring (Env.reading topMemory) 1 0xffffffffffffff00 ≠
      cstringAt topMemory 0xffffffffffffff00 := by
  have haddr : (0xffffffffffffff00 : U64).toNat = usizeLimit - 256 := by decide
  have hroom : usizeLimit - (usizeLimit - 256) = (List.replicate 256 (0x61 : UInt8)).length := by
    rw [List.length_replicate]
    decide
  have hread : topMemory.readable (0xffffffffffffff00 : U64).toNat
      (usizeLimit - (0xffffffffffffff00 : U64).toNat) = List.replicate 256 0x61 := by
    rw [haddr, hroom]
    exact readable_memoryAt _ _ (by rw [List.length_replicate]; decide)
  have htop : FillsToTop topMemory (0xffffffffffffff00 : U64).toNat cstringMaxLen := by
    refine ⟨by decide, by decide, ?_, ?_⟩
    · rw [hread, List.length_replicate]
      decide
    · rw [hread]
      exact fun hmem => absurd (List.eq_of_mem_replicate hmem) (by decide)
  obtain ⟨before, b, hbytes, hrun, htext⟩ :=
    readRemoteCstring_top (copies_reading topMemory 1) (by decide) htop
  rw [hrun, htext, ne_eq, fromUtf8Lossy_repeat]
  rintro ⟨first, lead, rfl, hhigh, _⟩
  rw [hread] at hbytes
  have hlead : lead ∈ List.replicate 256 (0x61 : UInt8) := by simp [hbytes]
  rw [List.eq_of_mem_replicate hlead] at hhigh
  exact absurd hhigh (by decide)

/-! ### Previews of buffers -/

/-- The bytes that an escaped text stands for. -/
def unescape : List Char → Option (List UInt8)
  | [] => some []
  | '\\' :: 'n' :: cs => (unescape cs).map fun bs => 0x0a :: bs
  | '\\' :: 'r' :: cs => (unescape cs).map fun bs => 0x0d :: bs
  | '\\' :: 't' :: cs => (unescape cs).map fun bs => 0x09 :: bs
  | '\\' :: 'x' :: high :: low :: cs =>
    (hexDigits 0 [high, low]).bind fun n => (unescape cs).map fun bs => UInt8.ofNat n :: bs
  | '\\' :: c :: cs =>
    if c = '\\' ∨ c = '"' then (unescape cs).map fun bs => UInt8.ofNat c.toNat :: bs else none
  | c :: cs => (unescape cs).map fun bs => UInt8.ofNat c.toNat :: bs

theorem unescape_plain {c : Char} (hc : c ≠ '\\') (cs : List Char) :
    unescape (c :: cs) = (unescape cs).map fun bs => UInt8.ofNat c.toNat :: bs := by
  rw [unescape]
  all_goals simp [hc]

theorem unescape_asciiEscape (byte : UInt8) (cs : List Char) :
    unescape (asciiEscape byte ++ cs) = (unescape cs).map fun bs => byte :: bs := by
  have hbound : byte.toNat < 256 := byte.toNat_lt
  unfold asciiEscape
  split_ifs with h1 h2 h3 h4 h5 h6
  · subst h1; rfl
  · subst h2; rfl
  · subst h3; rfl
  · subst h4; rfl
  · subst h5; rfl
  · have hchar : (Char.ofNat byte.toNat).toNat = byte.toNat := toNat_charOfNat (by omega)
    have hslash : Char.ofNat byte.toNat ≠ '\\' := by
      intro he
      rw [he] at hchar
      exact h1 (UInt8.toNat_inj.mp hchar.symm)
    rw [List.singleton_append, unescape_plain hslash, hchar, UInt8.ofNat_toNat]
  · have htwo : ∀ n < 256, ∃ high low, hexPadChars 2 n = [high, low] ∧
        hexDigits 0 [high, low] = some n := by
      intro n hn
      have hall : ∀ n < 256, (hexPadChars 2 n).length = 2 ∧
          hexDigits 0 (hexPadChars 2 n) = some n := by decide +kernel
      obtain ⟨hlen, hdigits⟩ := hall n hn
      obtain ⟨high, low, hpad⟩ := List.length_eq_two.mp hlen
      exact ⟨high, low, hpad, by rwa [← hpad]⟩
    obtain ⟨high, low, hpad, hdigits⟩ := htwo byte.toNat hbound
    rw [hpad]
    show ((hexDigits 0 [high, low]).bind fun n => (unescape cs).map fun bs => UInt8.ofNat n :: bs) =
      _
    rw [hdigits, Option.bind_some, UInt8.ofNat_toNat]

theorem unescape_preview (bytes : List UInt8) :
    unescape (bytes.flatMap asciiEscape) = some bytes := by
  induction bytes with
  | nil => rfl
  | cons byte bytes ih => rw [List.flatMap_cons, unescape_asciiEscape, ih, Option.map_some]

theorem printable_asciiEscape (byte : UInt8) :
    ∀ c ∈ asciiEscape byte, 0x20 ≤ c.toNat ∧ c.toNat ≤ 0x7e := by
  have hall : ∀ n < 256, ∀ c ∈ asciiEscape (UInt8.ofNat n), 0x20 ≤ c.toNat ∧ c.toNat ≤ 0x7e := by
    decide +kernel
  have hbyte := hall byte.toNat byte.toNat_lt
  rwa [UInt8.ofNat_toNat] at hbyte

/-- A data field of printable characters that ends at its first quote without a backslash and
reads back as the bytes. -/
def DataField (data : String) (bytes : List UInt8) : Prop :=
  ∃ field : List Char, data.toList = ", data=\"".toList ++ field ++ ['"'] ∧
    unescape field = some bytes ∧ (∀ c ∈ field, 0x20 ≤ c.toNat ∧ c.toNat ≤ 0x7e) ∧
    ∀ rest, Delim.quotes.read false (field ++ '"' :: rest) = field

theorem dataField_preview (bytes : List UInt8) :
    DataField (renderLine [.text ", data=", .field .quotes (bytesToAsciiPreview bytes)]) bytes := by
  have hclean := (clean_bytesToAsciiPreview bytes).2
  have hchars : (bytesToAsciiPreview bytes).toList = bytes.flatMap asciiEscape := String.toList_ofList
  rw [hchars] at hclean
  refine ⟨bytes.flatMap asciiEscape, ?_, unescape_preview bytes, fun c hc => ?_, fun rest => ?_⟩
  · have hkey : (", data=" : String).toList ++ ['"'] = (", data=\"" : String).toList := by decide
    rw [renderLine_cons, renderLine_cons, ← hkey]
    have hopen : Delim.quotes.opening = '"' := rfl
    have hclose : Delim.quotes.closing = '"' := rfl
    simp [renderLine, Piece.render, String.toList_append, hchars, hopen, hclose]
  · obtain ⟨byte, -, hc⟩ := List.mem_flatMap.mp hc
    exact printable_asciiEscape byte c hc
  · exact (Delim.read_iff .quotes false _ rest).mpr hclean

/-- The bytes of a transfer: what the call says it moved, as far as it was asked for. -/
def wantedBytes (reqCount : U64) (retNorm : I64) : ℕ := min retNorm.toInt.toNat reqCount.toNat

/-- The bytes that a preview shows. -/
def previewBytes (cfg : Config) (t : Target) (bufAddr reqCount : U64) (retNorm : I64) : ℕ :=
  min (wantedBytes reqCount retNorm)
    (min cfg.maxBlob (t.readable bufAddr.toNat usizeLimit).length)

theorem length_readable_min {t : Target} {addr n m : ℕ} (h : n ≤ m) :
    (t.readable addr n).length = min n (t.readable addr m).length := by
  obtain ⟨more, rfl⟩ := Nat.exists_eq_add_of_le h
  have hle := t.length_readable_le addr n
  rw [t.readable_add]
  split_ifs with hfull
  · rw [List.length_append]
    omega
  · omega

theorem toNat_of_pos {v : I64} (h : 0 < v.toInt) : v.toNat = v.toInt.toNat := by
  have hlt := v.isLt
  rw [BitVec.toInt_eq_toNat_cond] at h ⊢
  split_ifs at h ⊢
  · simp
  · omega

/-- A preview shows the first bytes of the buffer, as they are, and tells whether that is less
than what was transferred. -/
theorem formatBufferPreview_faithful {cfg : Config} {env : Env} {pid : Pid} {t : Target}
    (hcopy : Copies env pid t) (bufAddr reqCount : U64) (retNorm : I64) :
    (retNorm.toInt ≤ 0 ∨ reqCount = 0 →
      renderLine (formatBufferPreview cfg env pid bufAddr reqCount retNorm) = "") ∧
    (t.byte bufAddr.toNat ≠ none → ∃ data,
      renderLine (formatBufferPreview cfg env pid bufAddr reqCount retNorm) =
        data ++ (if previewBytes cfg t bufAddr reqCount retNorm < wantedBytes reqCount retNorm then
          ", data_truncated=true" else "") ∧
      (previewBytes cfg t bufAddr reqCount retNorm = 0 → data = "") ∧
      (0 < previewBytes cfg t bufAddr reqCount retNorm → ∃ bytes,
        t.bytes bufAddr.toNat (previewBytes cfg t bufAddr reqCount retNorm) = some bytes ∧
          DataField data bytes)) := by
  by_cases hret : retNorm.toInt ≤ 0
  · have hnone : wantedBytes reqCount retNorm = 0 := by
      rw [wantedBytes]
      omega
    have htext : formatBufferPreview cfg env pid bufAddr reqCount retNorm = [] := if_pos hret
    rw [htext, previewBytes, hnone]
    exact ⟨fun _ => rfl, fun _ => ⟨"", by simp [renderLine], fun _ => rfl, fun h => by omega⟩⟩
  · have hwanted : wantedBytes reqCount retNorm = min retNorm.toNat reqCount.toNat := by
      have hpos : 0 < retNorm.toInt := by omega
      rw [wantedBytes, toNat_of_pos hpos]
    have htext : formatBufferPreview cfg env pid bufAddr reqCount retNorm = _ := if_neg hret
    dsimp only at htext
    rw [← hwanted] at htext
    by_cases hzero : wantedBytes reqCount retNorm = 0
    · rw [if_pos hzero] at htext
      rw [htext, previewBytes, hzero]
      exact ⟨fun _ => rfl, fun _ => ⟨"", by simp [renderLine], fun _ => rfl, fun h => by omega⟩⟩
    · rw [if_neg hzero] at htext
      refine ⟨fun h => ?_, fun hbyte => ?_⟩
      · rcases h with h | h
        · exact absurd h hret
        · rw [h] at hwanted
          rw [h] at hzero
          have hnone : (0 : U64).toNat = 0 := rfl
          omega
      · have hlimit : usizeLimit = 2 ^ 64 := rfl
        have haddr : bufAddr.toNat < usizeLimit := bufAddr.isLt
        have hcount : reqCount.toNat < 2 ^ 64 := reqCount.isLt
        by_cases hblob : min (wantedBytes reqCount retNorm) cfg.maxBlob = 0
        · have hshown : previewBytes cfg t bufAddr reqCount retNorm = 0 := by
            rw [previewBytes]
            omega
          rw [if_pos hblob] at htext
          rw [htext, hshown, if_pos (by omega)]
          exact ⟨"", by simp [renderLine, Piece.render], fun _ => rfl, fun h => by omega⟩
        · rw [if_neg hblob, readRemoteBytes_of_copies hcopy bufAddr (by omega)] at htext
          have hlen := @length_readable_min t bufAddr.toNat _ _
            (show min (wantedBytes reqCount retNorm) cfg.maxBlob ≤ usizeLimit by omega)
          have hshown : (t.readable bufAddr.toNat
              (min (wantedBytes reqCount retNorm) cfg.maxBlob)).length =
              previewBytes cfg t bufAddr reqCount retNorm := by
            rw [hlen, previewBytes]
            omega
          have hbytes := t.bytes_readable bufAddr.toNat (min (wantedBytes reqCount retNorm) cfg.maxBlob)
          rw [hshown] at hbytes
          have hne : t.readable bufAddr.toNat (min (wantedBytes reqCount retNorm) cfg.maxBlob) ≠ [] := by
            obtain ⟨n, hn⟩ : ∃ n, min (wantedBytes reqCount retNorm) cfg.maxBlob = n + 1 :=
              ⟨min (wantedBytes reqCount retNorm) cfg.maxBlob - 1, by omega⟩
            obtain ⟨b, hb⟩ := Option.ne_none_iff_exists'.mp hbyte
            rw [hn, Target.readable, if_pos haddr, hb]
            simp
          have hpos : 0 < previewBytes cfg t bufAddr reqCount retNorm := by
            rw [← hshown]
            exact List.length_pos_of_ne_nil hne
          rw [if_neg hne] at htext
          dsimp only at htext
          rw [hshown] at htext
          refine ⟨_, ?_, fun h => by omega, fun _ => ⟨_, hbytes, dataField_preview _⟩⟩
          rw [htext]
          by_cases hcut : previewBytes cfg t bufAddr reqCount retNorm < wantedBytes reqCount retNorm
          · rw [if_pos (.inl hcut), if_pos hcut]
            simp [renderLine, Piece.render, String.join_cons, String.append_assoc]
          · rw [if_neg (by rw [previewBytes] at hcut ⊢; omega), if_neg hcut]
            simp

def previewConfig : Config := ⟨.file, "cudatrace.output", .all, .full, 3, .us, .off, [], 64⟩

theorem formatBufferPreview_hello : ∃ data,
    renderLine (formatBufferPreview previewConfig
      (Env.reading (memoryAt 4096 [0x68, 0x65, 0x6c, 0x6c, 0x6f])) 1 4096 8 5) =
    data ++ (if previewBytes previewConfig (memoryAt 4096 [0x68, 0x65, 0x6c, 0x6c, 0x6f]) 4096 8 5 <
      wantedBytes 8 5 then ", data_truncated=true" else "") := by
  obtain ⟨data, htext, _⟩ := (formatBufferPreview_faithful
    (copies_reading (memoryAt 4096 [0x68, 0x65, 0x6c, 0x6c, 0x6f]) 1) 4096 8 5).2 (by decide)
  exact ⟨data, htext⟩

end CudaTrace.Ptrace
