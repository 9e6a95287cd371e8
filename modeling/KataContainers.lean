import KataContainers.VmMemory.GuestMemory
import KataContainers.Lib.RustInt
import KataContainers.VirtioQueue.Descriptor
import KataContainers.Block.Request
import KataContainers.Utils.RateLimiter
import KataContainers.Block.Handler
import KataContainers.Balloon
import KataContainers.Pci.Configuration
import KataContainers.Pci.Bus
import KataContainers.Pci.Msix
import KataContainers.Pci.CommonConfig
import KataContainers.Pci.VirtioPci
import KataContainers.Vsock.TxBuf
import KataContainers.Vsock.Connection
import KataContainers.Vsock.Credit
import KataContainers.Lib.PathResolution
import KataContainers.Lib.Glob
import KataContainers.SafePath.ScopedResolve
import KataContainers.Agent.Policy
import KataContainers.Agent.Rpc
import KataContainers.Config.Annotation
import KataContainers.Lib.ExceptSpec
import KataContainers.Allocator.IntervalTree
import KataContainers.Allocator.Invariant
import KataContainers.Allocator.Reachable
import KataContainers.Vsock.TxRing
import KataContainers.Vsock.TxPath
import KataContainers.Device.IoManager
import KataContainers.ResourceManager
import KataContainers.Lib.KeyedMap
import KataContainers.AddressSpace
import KataContainers.Lib.ListWindow
import KataContainers.VirtioMem
import KataContainers.Mmio.MmioV2
import KataContainers.Allocator.Lookup
import KataContainers.Lib.Align
import KataContainers.Allocator.Allocate
import KataContainers.Allocator.Free
import KataContainers.Interrupt.Manager
import KataContainers.Lib.UInt16Bits
import KataContainers.Pci.MsixControl
import KataContainers.Lib.UInt32Bits
import KataContainers.Pci.BarProgramming
import KataContainers.Utils.TokenBucket
import KataContainers.Agent.Cgroups
import KataContainers.Pci.MsixMasking
import KataContainers.Lib.BitField
import KataContainers.Cpuid.Leaves
import KataContainers.Cpuid.Topology
import KataContainers.Upcall.Client
import KataContainers.Agent.Uevent
import KataContainers.Lib.RustStd
import KataContainers.KataTypes.U32Set
import KataContainers.KataTypes.Cpu
import KataContainers.RuntimeRs.MemResource
import KataContainers.Lib.BitVecCrate
import KataContainers.Agent.Cpuset
import KataContainers.Device.Manager
import KataContainers.Lib.RustPath
import KataContainers.SysUtil.Mount
import KataContainers.Agent.PciEnv
import KataContainers.Lib.Binary64
import KataContainers.RuntimeRs.CpuResource
import KataContainers.Lib.EStateSpec
import KataContainers.Lib.RustFs
import KataContainers.Agent.Watcher
import KataContainers.Agent.WatcherScan
import KataContainers.Agent.WatcherMirror
import KataContainers.Agent.WatcherRun
