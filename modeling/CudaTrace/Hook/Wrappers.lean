import Mathlib.Data.List.Basic

/-!
# The wrapper tables (driver.rs, cudart.rs)

Each wrapper looks up its target by name when it is called: the names are tried in
order, and the first that resolves is called. The tables say which wrapper a symbol
name selects; several names may select one wrapper.
-/

namespace CudaTrace.Hook

/-- A wrapper function with the names its body resolves. -/
structure Wrapper where
  name : String
  targets : List String
  deriving DecidableEq

/-- A wrapper that resolves its own name only. -/
def Wrapper.plain (name : String) : Wrapper := ⟨name, [name]⟩

/-- One arm of a `match` over symbol names. -/
structure Arm where
  symbols : List String
  wrapper : Wrapper

def Arm.plain (name : String) : Arm := ⟨[name], .plain name⟩

def select (arms : List Arm) (symbol : String) : Option Wrapper :=
  (arms.find? (·.symbols.contains symbol)).map Arm.wrapper

/-! ### Driver API -/

def cuCtxPushCurrentV2 : Wrapper := ⟨"cuCtxPushCurrent_v2", ["cuCtxPushCurrent_v2", "cuCtxPushCurrent"]⟩

def cuCtxPopCurrentV2 : Wrapper := ⟨"cuCtxPopCurrent_v2", ["cuCtxPopCurrent_v2", "cuCtxPopCurrent"]⟩

def cuDevicePrimaryCtxSetFlags : Wrapper :=
  ⟨"cuDevicePrimaryCtxSetFlags", ["cuDevicePrimaryCtxSetFlags", "cuDevicePrimaryCtxSetFlags_v2"]⟩

def cuStreamDestroy : Wrapper := ⟨"cuStreamDestroy", ["cuStreamDestroy", "cuStreamDestroy_v2"]⟩

def cuEventDestroy : Wrapper := ⟨"cuEventDestroy", ["cuEventDestroy", "cuEventDestroy_v2"]⟩

def cuEventElapsedTime : Wrapper :=
  ⟨"cuEventElapsedTime", ["cuEventElapsedTime", "cuEventElapsedTime_v2"]⟩

def cuMemcpyHtoDAsyncV2 : Wrapper :=
  ⟨"cuMemcpyHtoDAsync_v2", ["cuMemcpyHtoDAsync_v2", "cuMemcpyHtoDAsync"]⟩

def cuMemcpyDtoHAsyncV2 : Wrapper :=
  ⟨"cuMemcpyDtoHAsync_v2", ["cuMemcpyDtoHAsync_v2", "cuMemcpyDtoHAsync"]⟩

/-- The arms of `wrapper_for_driver_symbol`, but for the last two. -/
def driverArms : List Arm :=
  [.plain "cuInit",
    .plain "cuDeviceGet",
    .plain "cuDeviceGetName",
    ⟨["cuCtxCreate", "cuCtxCreate_v2"], .plain "cuCtxCreate_v2"⟩,
    ⟨["cuCtxDestroy", "cuCtxDestroy_v2"], .plain "cuCtxDestroy_v2"⟩,
    .plain "cuCtxSynchronize",
    .plain "cuCtxGetCurrent",
    .plain "cuCtxSetCurrent",
    ⟨["cuCtxPushCurrent", "cuCtxPushCurrent_v2"], cuCtxPushCurrentV2⟩,
    ⟨["cuCtxPopCurrent", "cuCtxPopCurrent_v2"], cuCtxPopCurrentV2⟩,
    .plain "cuDevicePrimaryCtxRetain",
    .plain "cuDevicePrimaryCtxRelease",
    .plain "cuDevicePrimaryCtxReset",
    ⟨["cuDevicePrimaryCtxSetFlags", "cuDevicePrimaryCtxSetFlags_v2"], cuDevicePrimaryCtxSetFlags⟩,
    .plain "cuDevicePrimaryCtxGetState",
    .plain "cuStreamCreate",
    .plain "cuStreamCreateWithPriority",
    ⟨["cuStreamDestroy", "cuStreamDestroy_v2"], cuStreamDestroy⟩,
    .plain "cuEventCreate",
    ⟨["cuEventDestroy", "cuEventDestroy_v2"], cuEventDestroy⟩,
    ⟨["cuEventRecord", "cuEventRecord_ptsz"], .plain "cuEventRecord"⟩,
    ⟨["cuEventRecordWithFlags", "cuEventRecordWithFlags_ptsz"], .plain "cuEventRecordWithFlags"⟩,
    .plain "cuEventSynchronize",
    ⟨["cuEventElapsedTime", "cuEventElapsedTime_v2"], cuEventElapsedTime⟩,
    ⟨["cuMemcpyAsync", "cuMemcpyAsync_ptsz"], .plain "cuMemcpyAsync"⟩,
    ⟨["cuMemcpyHtoDAsync", "cuMemcpyHtoDAsync_v2"], cuMemcpyHtoDAsyncV2⟩,
    ⟨["cuMemcpyHtoDAsync_v2_ptsz"], cuMemcpyHtoDAsyncV2⟩,
    ⟨["cuMemcpyDtoHAsync", "cuMemcpyDtoHAsync_v2"], cuMemcpyDtoHAsyncV2⟩,
    ⟨["cuMemcpyDtoHAsync_v2_ptsz"], cuMemcpyDtoHAsyncV2⟩,
    .plain "cuModuleLoad",
    .plain "cuModuleGetFunction",
    .plain "cuModuleUnload",
    .plain "cuLaunchKernel",
    ⟨["cuMemcpyHtoD", "cuMemcpyHtoD_v2"], .plain "cuMemcpyHtoD_v2"⟩,
    ⟨["cuMemcpyDtoH", "cuMemcpyDtoH_v2"], .plain "cuMemcpyDtoH_v2"⟩,
    ⟨["cuMemAlloc", "cuMemAlloc_v2"], .plain "cuMemAlloc_v2"⟩,
    ⟨["cuMemFree", "cuMemFree_v2"], .plain "cuMemFree_v2"⟩,
    ⟨["cuMemAllocHost", "cuMemAllocHost_v2"], .plain "cuMemAllocHost_v2"⟩,
    .plain "cuMemFreeHost"]

/-- The wrappers that look entry points up for their caller. -/
def procAddressArms : List Arm :=
  [⟨["cuGetProcAddress"], ⟨"cuGetProcAddress", ["cuGetProcAddress", "cuGetProcAddress_v2"]⟩⟩,
    ⟨["cuGetProcAddress_v2"], ⟨"cuGetProcAddress_v2", ["cuGetProcAddress_v2", "cuGetProcAddress"]⟩⟩]

/-- `wrapper_for_driver_symbol`, where the build has generated the plain wrappers named
in `generated`. -/
def wrapperForDriverSymbol (generated : List String) (symbol : String) : Option Wrapper :=
  (select (driverArms ++ procAddressArms) symbol).or
    (if generated.contains symbol then some (.plain symbol) else none)

/-! ### Runtime API -/

/-- The arms of `wrapper_for_cudart_symbol`; the build generates no others. -/
def cudartArms : List Arm :=
  [.plain "cudaMalloc", .plain "cudaFree", .plain "cudaHostAlloc", .plain "cudaMallocHost",
    .plain "cudaFreeHost", .plain "cudaMemcpyAsync", .plain "cudaLaunchKernel",
    .plain "cudaStreamCreate", .plain "cudaStreamDestroy", .plain "cudaEventCreate",
    .plain "cudaEventRecord", .plain "cudaEventSynchronize", .plain "cudaEventElapsedTime",
    .plain "cudaDeviceReset"]

def wrapperForCudartSymbol (symbol : String) : Option Wrapper := select cudartArms symbol

/-- `dlsym_override`. -/
def dlsymOverride (generated : List String) (symbol : String) : Option Wrapper :=
  (wrapperForDriverSymbol generated symbol).or (wrapperForCudartSymbol symbol)

/-! ### Names -/

theorem select_mem {arms : List Arm} {symbol : String} {w : Wrapper}
    (h : select arms symbol = some w) : ∃ arm ∈ arms, symbol ∈ arm.symbols ∧ arm.wrapper = w := by
  obtain ⟨arm, harm, hw⟩ := Option.map_eq_some_iff.mp h
  have hs := List.find?_some harm
  exact ⟨arm, List.mem_of_find?_eq_some harm, by simpa using hs, hw⟩

end CudaTrace.Hook
