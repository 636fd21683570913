import CudaTrace.Base.Transition
import CudaTrace.Base.Arbiter
import CudaTrace.Base.Utf8
import CudaTrace.Base.Text
import CudaTrace.Config
import CudaTrace.Ptrace.Remote
import CudaTrace.Ptrace.FdMaps
import CudaTrace.Ptrace.Window
import CudaTrace.Fgraph.Controller
import CudaTrace.Ptrace.Loop
import CudaTrace.Ptrace.Turn
import CudaTrace.Ptrace.Kernel
import CudaTrace.Ptrace.Arbitration
import CudaTrace.Ptrace.Turn
import CudaTrace.Ptrace.Kernel
import CudaTrace.Ptrace.Parity
import CudaTrace.Ptrace.Phase
import CudaTrace.Ptrace.Signals
import CudaTrace.Ptrace.Healthy
import CudaTrace.Ptrace.CaptureEvents
import CudaTrace.Ptrace.Completeness
import CudaTrace.Ptrace.Program
import CudaTrace.Ptrace.Deadlock
import CudaTrace.Ptrace.FdSimulation
import CudaTrace.Base.Channel
import CudaTrace.Boot.Bootstrap
import CudaTrace.Hook.Graph
import CudaTrace.Hook.Scope
import CudaTrace.Hook.WindowAgreement
import CudaTrace.Hook.Wrappers
import CudaTrace.Hook.DlsymRuns
import CudaTrace.Hook.ProcAddress
import CudaTrace.Hook.Attribution
import CudaTrace.Hook.PipeDescriptors
import CudaTrace.Ptrace.Backlog
import CudaTrace.Base.CallForest
import CudaTrace.Hook.Spans
import CudaTrace.Ptrace.Tables
import CudaTrace.Hook.MergedTrace
import CudaTrace.Ptrace.ExitOrder
import CudaTrace.Decode.Ioctl
import CudaTrace.Ptrace.StalePath
import CudaTrace.Ptrace.Isolation
import CudaTrace.Boot.ProcessTree
import CudaTrace.Base.Json
import CudaTrace.Base.Checked
import CudaTrace.Base.Layout
import CudaTrace.Decode.Json
import CudaTrace.Decode.Remote
import CudaTrace.Decode.Nvidia
import CudaTrace.Decode.RmLayouts
import CudaTrace.Decode.UvmLayouts
import CudaTrace.Decode.RmNames
import CudaTrace.Decode.Uvm
import CudaTrace.Decode.RmControl
import CudaTrace.Decode.Rm
import CudaTrace.Decode.Summary
import CudaTrace.Decode.ArgsText
import CudaTrace.Decode.NoPanic
import CudaTrace.Decode.Blocks
import CudaTrace.Base.Script
import CudaTrace.Decode.Xfer
import CudaTrace.Fgraph.Recording
import CudaTrace.Fgraph.FailedCapture
import CudaTrace.Base.LostUpdates
import CudaTrace.Hook.LostWindows
import CudaTrace.Base.LazyForest
import CudaTrace.Hook.CallGraph
import CudaTrace.Base.Quoting
import CudaTrace.Ptrace.SyscallText
import CudaTrace.Ptrace.SyscallLine
import CudaTrace.Decode.Places
import CudaTrace.Decode.UvmPlaces
import CudaTrace.Decode.ControlPlaces
import CudaTrace.Decode.EscapePlaces
import CudaTrace.Decode.FieldValues
import CudaTrace.Ptrace.FlagWords
import CudaTrace.Base.Utf8Cut
import CudaTrace.Ptrace.RemoteText
import CudaTrace.Base.Lines
import CudaTrace.Ptrace.Mappings
import CudaTrace.Ptrace.OwnFiles
import CudaTrace.Decode.Dispatch
import CudaTrace.Base.Nesting
import CudaTrace.Base.Trim
import CudaTrace.Fgraph.TraceText
import CudaTrace.Build.Prototypes
import CudaTrace.Build.Coverage
import CudaTrace.Base.Pieces
import CudaTrace.Build.Parameters
import CudaTrace.Build.Declarations
import CudaTrace.Build.Forwarding
import CudaTrace.Base.JsonContext
import CudaTrace.WriteAll
import CudaTrace.Decode.JsonCalls
import CudaTrace.Base.RecordPipe
import CudaTrace.Ptrace.Records
import CudaTrace.Base.Tokens
import CudaTrace.ConfigEnv
import CudaTrace.TraceFiles
import CudaTrace.Ptrace.Sinks
import CudaTrace.Ptrace.CaptureFiles
import CudaTrace.Ptrace.Leftovers
import CudaTrace.Base.ReadForest
import CudaTrace.Hook.ReadTrace
import CudaTrace.Hook.ReadMerged
