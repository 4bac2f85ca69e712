import AngryUefi.Lib.Transition
import AngryUefi.Lib.Bytes
import AngryUefi.Lib.Framing
import AngryUefi.Lib.SpinLock
import AngryUefi.Cores.Pair
import AngryUefi.Cores.Effects
import AngryUefi.Cores.Locking
import AngryUefi.Cores.Jobs
import AngryUefi.Cores.Completion
import AngryUefi.Cores.FaultFlag
import AngryUefi.Cores.Machine
import AngryUefi.Lib.Simulation
import AngryUefi.Lib.Mailbox
import AngryUefi.Cores.Mailbox
import AngryUefi.Cores.Waiting
import AngryUefi.Cores.BootCore
import AngryUefi.Cores.BootJob
import AngryUefi.Cores.Mailboxes
import AngryUefi.Cores.Steady
import AngryUefi.Cores.Progress
import AngryUefi.Net.Receive
import AngryUefi.Net.Inbound
import AngryUefi.Net.Chunking
import AngryUefi.Lib.Program
import AngryUefi.Handlers.Server
import AngryUefi.Handlers.Protocol
import AngryUefi.Handlers.Debug
import AngryUefi.Handlers.Ucode
import AngryUefi.Handlers.Jobs
import AngryUefi.Handlers.Readout
import AngryUefi.Handlers.Dispatch
import AngryUefi.Handlers.Outbound
import AngryUefi.Handlers.SlotStore
import AngryUefi.Handlers.Sending
import AngryUefi.Handlers.Requests
import AngryUefi.Handlers.Kept
import AngryUefi.Handlers.Tables
import AngryUefi.Handlers.Inputs
import AngryUefi.Cores.Capture
import AngryUefi.Handlers.Emits
import AngryUefi.Handlers.Running
import AngryUefi.Handlers.Replies
import AngryUefi.Handlers.Scratch
import AngryUefi.Handlers.Leaks
import AngryUefi.Cores.Recovery
import AngryUefi.Lib.PageWalk
import AngryUefi.System.MinimalPaging
import AngryUefi.Lib.AddressSpace
import AngryUefi.Lib.X86
import AngryUefi.System.FaultHandlers
import AngryUefi.System.FaultRecords
import AngryUefi.System.InterruptTable
import AngryUefi.System.UcodeRestore
import AngryUefi.System.MachineCode
import AngryUefi.System.RestoredUcode
import AngryUefi.Handlers.Admission
import AngryUefi.Asr.Copying
import AngryUefi.Handlers.Packets
import AngryUefi.Asr.DsmCapture
import AngryUefi.Asr.Interference
import AngryUefi.Handlers.PageTables
import AngryUefi.System.PagingInfo
import AngryUefi.Handlers.Pongs
import AngryUefi.Handlers.Flips
import AngryUefi.Handlers.OpenEvents
import AngryUefi.Asr.IbsRegisters
import AngryUefi.Asr.IbsEvents
import AngryUefi.Asr.IbsLog
import AngryUefi.Asr.IbsControl
import AngryUefi.Asr.IbsInit
import AngryUefi.Asr.DsmTrace
import AngryUefi.Asr.CallGate
import AngryUefi.Asr.DsmCounters
import AngryUefi.Handlers.Startup
import AngryUefi.Handlers.MainLoop
import AngryUefi.Handlers.Answering
import AngryUefi.Handlers.StoredSlots
import AngryUefi.Handlers.Isolation
import AngryUefi.Handlers.KnownGood
import AngryUefi.System.GpfGate
import AngryUefi.System.FaultFootprint
import AngryUefi.System.FaultRuns
