import CudaTrace.Hook.DlsymRuns

/-!
# Entry-point lookups (driver.rs, `cuGetProcAddress`)

The driver picks an entry point by name, version and flags; the wrapper that replaces
it is picked by name alone and finds its own target when it is called.
-/

namespace CudaTrace.Hook
open CudaTrace.Base

/-- Arguments of a lookup; a false flag stands for a null pointer. -/
structure ProcArgs where
  symbol : Option String
  pfn : Bool
  cudaVersion : BitVec 32
  flags : BitVec 64
  symbolStatus : Bool

/-- What `pfn` and `symbolStatus` point to; a null function pointer is `none`. -/
structure ProcCells where
  pfn : Option Fn
  symbolStatus : BitVec 32

/-- The driver's `cuGetProcAddress` and `cuGetProcAddress_v2`, by the number of the function. -/
structure ProcImpl where
  legacy : ℕ → ProcArgs → Option Fn → CUresult × Option Fn
  v2 : ℕ → ProcArgs → ProcCells → CUresult × ProcCells

/-- `patch_driver_proc`. -/
def patchDriverProc (generated : List String) (args : ProcArgs) (c : ProcCells) : ProcCells :=
  match args.symbol with
  | none => c
  | some symbol =>
    if args.pfn then
      match wrapperForDriverSymbol generated symbol with
      | some w => { c with pfn := some (.wrapper w) }
      | none => c
    else c

def patchOnSuccess (generated : List String) (args : ProcArgs) (r : CUresult × ProcCells) :
    CUresult × ProcCells :=
  if r.1 = 0 then (r.1, patchDriverProc generated args r.2) else r

/-- A call of the legacy entry point; a wrapper found there would call itself for ever. -/
def ProcImpl.callLegacy (impl : ProcImpl) (args : ProcArgs) (c : ProcCells) :
    Fn → Option (CUresult × ProcCells)
  | .real id =>
    let (ret, pfn) := impl.legacy id args c.pfn
    some (ret, { c with pfn := pfn })
  | .wrapper _ => none

def ProcImpl.callV2 (impl : ProcImpl) (args : ProcArgs) (c : ProcCells) :
    Fn → Option (CUresult × ProcCells)
  | .real id => some (impl.v2 id args c)
  | .wrapper _ => none

/-- What the lookup is forwarded to, before any patching. -/
def forwardLegacy (impl : ProcImpl) (l : Loader) (args : ProcArgs) (c : ProcCells) (s : Hooks) :
    Option (CUresult × ProcCells) × Hooks :=
  match s.real l "cuGetProcAddress" with
  | (some real, s) => (impl.callLegacy args c real, s)
  | (none, s) =>
    match s.real l "cuGetProcAddress_v2" with
    | (some realV2, s) => (impl.callV2 { args with symbolStatus := false } c realV2, s)
    | (none, s) => (some (cudaErrorUnknown, c), s)

def forwardV2 (impl : ProcImpl) (l : Loader) (args : ProcArgs) (c : ProcCells) (s : Hooks) :
    Option (CUresult × ProcCells) × Hooks :=
  match s.real l "cuGetProcAddress_v2" with
  | (some real, s) => (impl.callV2 args c real, s)
  | (none, s) =>
    match s.real l "cuGetProcAddress" with
    | (some realLegacy, s) => (impl.callLegacy args c realLegacy, s)
    | (none, s) => (some (cudaErrorUnknown, c), s)

/-- `cuGetProcAddress`. -/
def cuGetProcAddress (generated : List String) (impl : ProcImpl) (l : Loader) (args : ProcArgs)
    (c : ProcCells) (s : Hooks) : Option (CUresult × ProcCells) × Hooks :=
  let (r, s) := forwardLegacy impl l args c s
  (r.map (patchOnSuccess generated args), s)

/-- `cuGetProcAddress_v2`. -/
def cuGetProcAddressV2 (generated : List String) (impl : ProcImpl) (l : Loader) (args : ProcArgs)
    (c : ProcCells) (s : Hooks) : Option (CUresult × ProcCells) × Hooks :=
  let (r, s) := forwardV2 impl l args c s
  (r.map (patchOnSuccess generated args), s)

/-! ### Outputs -/

section

variable {generated : List String} {args : ProcArgs} {r : CUresult × ProcCells}

/-- The result and the status are those of the driver. -/
theorem patchOnSuccess_status (generated : List String) (args : ProcArgs)
    (r : CUresult × ProcCells) :
    (patchOnSuccess generated args r).1 = r.1 ∧
      (patchOnSuccess generated args r).2.symbolStatus = r.2.symbolStatus := by
  unfold patchOnSuccess patchDriverProc
  split
  · refine ⟨rfl, ?_⟩
    dsimp only
    split
    · rfl
    · split
      · split <;> rfl
      · rfl
  · exact ⟨rfl, rfl⟩

/-- Nothing is patched after a failure, for a null pointer or a symbol without wrapper. -/
theorem patchOnSuccess_same
    (h : r.1 ≠ 0 ∨ args.pfn = false ∨
      ∀ symbol, args.symbol = some symbol → wrapperForDriverSymbol generated symbol = none) :
    patchOnSuccess generated args r = r := by
  unfold patchOnSuccess patchDriverProc
  split
  · rename_i h0
    rcases h with h | h | h
    · exact absurd h0 h
    · rw [h]
      split <;> rfl
    · split
      · rfl
      · rename_i symbol hs
        rw [h symbol hs]
        split <;> rfl
  · rfl

theorem patchOnSuccess_wrapper (h0 : r.1 = 0) (hp : args.pfn = true) {symbol : String}
    (hs : args.symbol = some symbol) {w : Wrapper}
    (hw : wrapperForDriverSymbol generated symbol = some w) :
    (patchOnSuccess generated args r).2.pfn = some (.wrapper w) := by
  unfold patchOnSuccess patchDriverProc
  rw [if_pos h0, hs]
  dsimp only
  rw [if_pos hp, hw]

end

/-- The two entry points; `v2` selects the second. -/
def forward (v2 : Bool) (impl : ProcImpl) (l : Loader) (args : ProcArgs) (c : ProcCells) (s : Hooks) :
    Option (CUresult × ProcCells) :=
  if v2 then (forwardV2 impl l args c s).1 else (forwardLegacy impl l args c s).1

def procAddress (v2 : Bool) (generated : List String) (impl : ProcImpl) (l : Loader)
    (args : ProcArgs) (c : ProcCells) (s : Hooks) : Option (CUresult × ProcCells) :=
  if v2 then (cuGetProcAddressV2 generated impl l args c s).1
  else (cuGetProcAddress generated impl l args c s).1

theorem procAddress_eq (v2 : Bool) (generated : List String) (impl : ProcImpl) (l : Loader)
    (args : ProcArgs) (c : ProcCells) (s : Hooks) :
    procAddress v2 generated impl l args c s =
      (forward v2 impl l args c s).map (patchOnSuccess generated args) := by
  cases v2 <;> rfl

/-- What an interposed lookup leaves behind where the driver's own leaves `r`. -/
theorem proc_address_outputs (generated : List String) (v2 : Bool) (impl : ProcImpl) {t : Linked}
    (args : ProcArgs) (c : ProcCells) {r : CUresult × ProcCells}
    (hr : forward v2 impl t.loader args c t.hooks = some r) :
    ∃ out, procAddress v2 generated impl t.loader args c t.hooks = some out ∧
      out.1 = r.1 ∧ out.2.symbolStatus = r.2.symbolStatus ∧
      (r.1 ≠ 0 ∨ args.pfn = false ∨
        (∀ symbol, args.symbol = some symbol → wrapperForDriverSymbol generated symbol = none) →
        out = r) ∧
      ∀ symbol w f, r.1 = 0 → args.pfn = true → args.symbol = some symbol → r.2.pfn = some f →
        wrapperForDriverSymbol generated symbol = some w →
        out.2.pfn = some (.wrapper w) ∧
        (w.looksUp = false → ∀ u, (linked generated).Reachable u →
          ∀ (A W : Type) (code : ℕ → A → W → CUresult × W)
            (lookup : Wrapper → A → Hooks × W → CUresult × Hooks × W),
          (CallsNothing code lookup u w ∧ ∀ n ∈ w.names, Missed u.loaders n) ∨
          ∃ n ∈ w.names, ∃ g, Found u.loaders n g ∧
            ∀ id, g = .real id → CallsReal code lookup u w id) := by
  refine ⟨patchOnSuccess generated args r, ?_, (patchOnSuccess_status generated args r).1,
    (patchOnSuccess_status generated args r).2, patchOnSuccess_same, ?_⟩
  · rw [procAddress_eq, hr]
    rfl
  · intro symbol w f h0 hp hs _ hw
    refine ⟨patchOnSuccess_wrapper h0 hp hs hw, fun hlook u hu A W code lookup => ?_⟩
    rcases wrapper_calls code lookup hlook hu with hnothing | ⟨n, hn, g, hfound, hcalls⟩
    · exact Or.inl hnothing
    · exact Or.inr ⟨n, hn, g, hfound, fun id hid => hcalls id hid u (Or.inl rfl)⟩

/-- A driver with a second `cuMemcpyAsync` for the per-thread default stream (flag 2). -/
def streamImpl : ProcImpl where
  legacy := fun _ _ _ => (500, none)
  v2 := fun _ args c =>
    if args.symbol = some "cuMemcpyAsync" then
      (0, { c with pfn := some (.real (if args.flags = 2 then 8 else 7)) })
    else (500, { c with pfn := none })

def streamLoader : Loader := fun handle symbol =>
  if handle = 5 ∧ symbol = "cuMemcpyAsync" then some (.real 7)
  else if handle = 5 ∧ symbol = "cuMemcpyAsync_ptsz" then some (.real 8)
  else if handle = 5 ∧ symbol = "cuGetProcAddress_v2" then some (.real 9)
  else none

def streamStart : Linked := ⟨streamLoader, [streamLoader], .initial, []⟩

/-- The application has opened the driver and found the lookup function in it. -/
def streamLinked : Linked := streamStart.step [] (.dlsym 5 "cuGetProcAddress_v2")

def perThreadArgs : ProcArgs := ⟨some "cuMemcpyAsync", true, 12000, 2, true⟩

theorem proc_address_outputs_stream :
    ∃ out, procAddress true [] streamImpl streamLoader perThreadArgs ⟨none, 0⟩ streamLinked.hooks =
        some out ∧ out.1 = 0 ∧ out.2.pfn = some (.wrapper (.plain "cuMemcpyAsync")) := by
  obtain ⟨out, hout, hret, -, -, hwrap⟩ := proc_address_outputs [] true streamImpl (t := streamLinked)
    perThreadArgs ⟨none, 0⟩ (r := (0, ⟨some (.real 8), 0⟩)) rfl
  exact ⟨out, hout, hret, (hwrap "cuMemcpyAsync" (.plain "cuMemcpyAsync") (.real 8) rfl rfl rfl rfl
    rfl).1⟩

/-- The driver selects function 8; the stored pointer calls function 7. -/
theorem proc_address_other_entry :
    forward true streamImpl streamLoader perThreadArgs ⟨none, 0⟩ streamLinked.hooks =
      some (0, ⟨some (.real 8), 0⟩) ∧
    ∃ out w, procAddress true [] streamImpl streamLoader perThreadArgs ⟨none, 0⟩
        streamLinked.hooks = some out ∧ out.2.pfn = some (.wrapper w) ∧
      CallsReal logCall noLookup streamLinked w 7 ∧ ¬ CallsReal logCall noLookup streamLinked w 8 := by
  have hcalls : CallsReal logCall noLookup streamLinked (.plain "cuMemcpyAsync") 7 :=
    callsReal_of_target rfl rfl
  refine ⟨rfl, _, .plain "cuMemcpyAsync", rfl, rfl, hcalls, fun h8 => ?_⟩
  obtain ⟨hooks₇, h7⟩ := hcalls () []
  obtain ⟨hooks₈, h8⟩ := h8 () []
  have hlog := (Prod.mk.inj (Option.some.inj ((h7 0).symm.trans (h8 0)))).2
  exact absurd (Prod.mk.inj hlog).2 (by decide)

end CudaTrace.Hook
