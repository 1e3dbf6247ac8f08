import Iolinki.Lib.Machine
import Iolinki.Lib.Simulation
import Iolinki.Lib.Buffer
import Iolinki.Lib.RingBuffer
import Iolinki.Lib.Burst
import Iolinki.Lib.Streak
import Iolinki.Lib.Fletcher
import Iolinki.Lib.Gf2
import Iolinki.Protocol
import Iolinki.Crc
import Iolinki.CrcBurst
import Iolinki.CrcRemainder
import Iolinki.Events
import Iolinki.EventQueue
import Iolinki.DataStorage
import Iolinki.DataStorage.Checksum
import Iolinki.DataStorage.Transfers
import Iolinki.Params
import Iolinki.Platform.LinuxNvm
import Iolinki.Isdu.Model
import Iolinki.Isdu.Dispatch
import Iolinki.Isdu.Request
import Iolinki.Isdu.Soundness
import Iolinki.Isdu.Response
import Iolinki.Isdu.Execute
import Iolinki.Isdu.Invariant
import Iolinki.Isdu.Settling
import Iolinki.Isdu.Bounds
import Iolinki.Isdu.Tags
import Iolinki.Params.Registers
import Iolinki.Params.Nvm
import Iolinki.Isdu.Alike
import Iolinki.Isdu.DsCommands
import Iolinki.Isdu.Reads
import Iolinki.Isdu.Strings
import Iolinki.Isdu.Protection
import Iolinki.Isdu.Server
import Iolinki.Isdu.Abort
import Iolinki.Isdu.Numbering
import Iolinki.Isdu.Collision
import Iolinki.Isdu.Lengths
import Iolinki.Isdu.EventViews
import Iolinki.Dll.Model
import Iolinki.Dll.Frames
import Iolinki.Dll.Invariant
import Iolinki.Dll.Type0
import Iolinki.Dll.Effects
import Iolinki.Dll.Loop
import Iolinki.Dll.Bounds
import Iolinki.Dll.PdLength
import Iolinki.Dll.Layout
import Iolinki.Dll.Sio
import Iolinki.Dll.Startup
import Iolinki.Dll.Prompt
import Iolinki.Dll.Traps
import Iolinki.Dll.Recovery
import Iolinki.Dll.Engine
import Iolinki.Dll.Session
import Iolinki.Dll.DsPath
import Iolinki.Dll.Reboot
import Iolinki.Dll.Channels
import Iolinki.Dll.Interference
import Iolinki.Dll.Statistics
import Iolinki.Dll.Fallback
import Iolinki.Dll.ErrorEvents
import Iolinki.Dll.Tolerance
import Iolinki.Dll.Gap
import Iolinki.Dll.Silence
import Iolinki.Dll.PdUpdates
import Iolinki.Dll.Automaton
import Iolinki.Dll.LinkStates
import Iolinki.Dll.Framewise
import Iolinki.Platform.Baremetal
import Iolinki.Platform.VirtualPhy
import Iolinki.Platform.HostDemo
import Iolinki.Master.Model
import Iolinki.Master.Cycle
import Iolinki.Master.Write
import Iolinki.Master.Replies
import Iolinki.Master.Startup
import Iolinki.Master.Link
import Iolinki.Master.Read
import Iolinki.Master.WriteResult
import Iolinki.Master.Type2
import Iolinki.Master.Settling
import Iolinki.Master.AnySchedule
import Iolinki.Master.Server
import Iolinki.Master.Port
import Iolinki.Master.Faults
