import CudaTrace.Base.Transition
import CudaTrace.Hook.Wrappers
import Mathlib.Logic.Function.Basic

/-!
# Symbol lookups (driver.rs, cudart.rs, dlsym.rs)

The interposed `dlsym`, the remembered driver handle and the cells that keep what a
wrapper's target resolved to. The libraries that are loaded, and so what the real
`dlsym` answers, may change between any two calls.
-/

namespace CudaTrace.Hook
open CudaTrace.Base

/-- A function pointer: code of a loaded library, or a wrapper. -/
inductive Fn where
  | real (id : ℕ)
  | wrapper (w : Wrapper)
  deriving DecidableEq

/-- A library handle, as the number of the pointer. -/
abbrev Handle := BitVec 64

def rtldNext : Handle := -1

/-- What the real `dlsym` answers when it is called from libcudatrace. -/
abbrev Loader := Handle → String → Option Fn

/-- `CUDA_DRIVER_HANDLE`, the `OnceLock` of each target of the manual wrappers, and the
`real_fn` of each generated wrapper. -/
structure Hooks where
  driverHandle : Handle
  cells : String → Option (Option Fn)
  generatedCells : String → Option Fn

def Hooks.initial : Hooks := ⟨0, fun _ => none, fun _ => none⟩

/-! ### Resolving a target -/

/-- `resolve_next_from_ptr`. -/
def resolveNextFromPtr (l : Loader) (symbol : String) : Option Fn := l rtldNext symbol

/-- `resolve_driver_from_ptr`. -/
def resolveDriverFromPtr (l : Loader) (handle : Handle) (symbol : String) : Option Fn :=
  (if handle = 0 then none else l handle symbol).or (resolveNextFromPtr l symbol)

/-- The lookup behind a target: driver targets start at the remembered handle. -/
def Hooks.resolve (l : Loader) (s : Hooks) (symbol : String) : Option Fn :=
  if (wrapperForCudartSymbol symbol).isSome then resolveNextFromPtr l symbol
  else resolveDriverFromPtr l s.driverHandle symbol

/-- `resolve_next!`: the first answer is kept, also when nothing was found. -/
def Hooks.real (l : Loader) (symbol : String) (s : Hooks) : Option Fn × Hooks :=
  match s.cells symbol with
  | some r => (r, s)
  | none =>
    let r := s.resolve l symbol
    (r, { s with cells := Function.update s.cells symbol (some r) })

/-- `real_a().or_else(real_b)` over a list of targets. -/
def Hooks.firstReal (l : Loader) : List String → Hooks → Option Fn × Hooks
  | [], s => (none, s)
  | symbol :: rest, s =>
    match s.real l symbol with
    | (some f, s) => (some f, s)
    | (none, s) => s.firstReal l rest

/-- The lookup in a generated wrapper, which keeps what it found. -/
def Hooks.generatedReal (l : Loader) (symbol : String) (s : Hooks) : Option Fn × Hooks :=
  match s.generatedCells symbol with
  | some f => (some f, s)
  | none =>
    match resolveDriverFromPtr l s.driverHandle symbol with
    | some f => (some f, { s with generatedCells := Function.update s.generatedCells symbol (some f) })
    | none => (none, s)

/-- A wrapper of the tables above, not one that the build has generated. -/
def Wrapper.manual (w : Wrapper) : Bool :=
  (driverArms ++ procAddressArms ++ cudartArms).any (·.wrapper = w)

/-- The target a wrapper calls. -/
def Hooks.target (l : Loader) (w : Wrapper) (s : Hooks) : Option Fn × Hooks :=
  if w.manual then s.firstReal l w.targets else s.generatedReal l w.name

/-! ### The interposed dlsym -/

/-- `dlsym`. -/
def Hooks.dlsym (generated : List String) (l : Loader) (handle : Handle) (symbol : String)
    (s : Hooks) : Option Fn × Hooks :=
  let realPtr := l handle symbol
  if handle ≠ rtldNext ∧ realPtr.isSome then
    match dlsymOverride generated symbol with
    | some wrapper => (some (.wrapper wrapper), { s with driverHandle := handle })
    | none => (realPtr, s)
  else (realPtr, s)

/-! ### Calling a pointer -/

abbrev CUresult := BitVec 32

/-- `CUDA_ERROR_UNKNOWN`. -/
def cudaErrorUnknown : CUresult := 999

/-- A wrapper that does more than forward its call: it looks an entry point up. -/
def Wrapper.looksUp (w : Wrapper) : Bool := procAddressArms.any (·.wrapper = w)

/-- A call through a pointer: `impl` gives the result and the effect of each real function,
`lookup` those of the wrappers that look entry points up. There is no result when wrappers
call each other for ever. -/
def callFn {A W : Type*} (impl : ℕ → A → W → CUresult × W)
    (lookup : Wrapper → A → Hooks × W → CUresult × Hooks × W) (l : Loader) :
    ℕ → Fn → A → Hooks × W → Option (CUresult × Hooks × W)
  | 0, _, _, _ => none
  | _ + 1, .real id, a, (s, x) =>
    let (ret, x) := impl id a x
    some (ret, s, x)
  | fuel + 1, .wrapper w, a, (s, x) =>
    if w.looksUp then some (lookup w a (s, x))
    else match s.target l w with
      | (none, s) => some (cudaErrorUnknown, s, x)
      | (some f, s) => callFn impl lookup l fuel f a (s, x)

/-! ### Runs -/

/-- A process with the loaders it has had so far, the current one first, and the lookups
of driver symbols by the application that succeeded, as handle and symbol. -/
structure Linked where
  loader : Loader
  loaders : List Loader
  hooks : Hooks
  driverLookups : List (Handle × String)

/-- `load` is any change of the loaded libraries, `use` any first or later use of the
target of a wrapper. -/
inductive LinkLabel where
  | load (l : Loader)
  | dlsym (handle : Handle) (symbol : String)
  | use (w : Wrapper)

def isDriverSymbol (generated : List String) (symbol : String) : Bool :=
  (wrapperForDriverSymbol generated symbol).isSome

def Linked.step (generated : List String) (s : Linked) : LinkLabel → Linked
  | .load l => { s with loader := l, loaders := l :: s.loaders }
  | .dlsym handle symbol =>
    { s with
      hooks := (s.hooks.dlsym generated s.loader handle symbol).2
      driverLookups :=
        if handle ≠ rtldNext ∧ (s.loader handle symbol).isSome ∧ isDriverSymbol generated symbol then
          (handle, symbol) :: s.driverLookups
        else s.driverLookups }
  | .use w => { s with hooks := (s.hooks.target s.loader w).2 }

def linkedStart (s : Linked) : Prop := s.loaders = [s.loader] ∧ s.hooks = .initial ∧ s.driverLookups = []

def linked (generated : List String) : System Linked LinkLabel where
  start := linkedStart
  step s l s' := s.step generated l = s'

end CudaTrace.Hook
