import ZppHypervisor.Lib.BitField
import ZppHypervisor.Lib.ByteMemory
import ZppHypervisor.Lib.Loop
import ZppHypervisor.Lib.Simulation
import ZppHypervisor.Lib.AddressSpace
import ZppHypervisor.X64.Pte
import ZppHypervisor.X64.VirtualAddress
import ZppHypervisor.X64.Walk
import ZppHypervisor.X64.OsPageTable
import ZppHypervisor.X64.PageTable
import ZppHypervisor.X64.Equiv.OsPageTable
import ZppHypervisor.X64.Equiv.PageTable
import ZppHypervisor.Hypervisor.Module
import ZppHypervisor.Hypervisor.HostPageTable
import ZppHypervisor.X64.TableMemory
import ZppHypervisor.Hypervisor.Equiv.HostPageTable
import ZppHypervisor.Equiv.SmallMap
import ZppHypervisor.X64.Intel.Epte
import ZppHypervisor.X64.Intel.Mtrr
import ZppHypervisor.Hypervisor.Equiv.PhysicalToVirtual
import ZppHypervisor.Hypervisor.Ept
import ZppHypervisor.X64.Intel.EptWalk
import ZppHypervisor.Hypervisor.Equiv.InitializeEpt
import ZppHypervisor.Hypervisor.Equiv.Ept
import ZppHypervisor.Hypervisor.Equiv.ProtectModule
import ZppHypervisor.Hypervisor.Equiv.EptIsolation
import ZppHypervisor.ElfFile
import ZppHypervisor.ElfImage
import ZppHypervisor.Equiv.ElfFile
import ZppHypervisor.Equiv.ElfRelocate
import ZppHypervisor.Hypervisor.Main
import ZppHypervisor.Hypervisor.Equiv.Main
import ZppHypervisor.Loader
import ZppHypervisor.Hypervisor.Equiv.Launch
import ZppHypervisor.Hypervisor.Equiv.EptReserved
import ZppHypervisor.Hypervisor.Equiv.Protection
import ZppHypervisor.Hypervisor.Equiv.GuestView
import ZppHypervisor.X64.Intel.EptMisconfiguration
import ZppHypervisor.Hypervisor.Equiv.EptConfigured
import ZppHypervisor.Equiv.Loader
import ZppHypervisor.Equiv.LoaderTables
import ZppHypervisor.Equiv.LoaderRuns
import ZppHypervisor.Equiv.SmallMapRun
import ZppHypervisor.Equiv.ElfLoad
import ZppHypervisor.Equiv.ElfLoadedView
import ZppHypervisor.Hypervisor.Equiv.Mtrrs
import ZppHypervisor.X64.Gdt
import ZppHypervisor.Hypervisor.Equiv.GdtRollback
import ZppHypervisor.Hypervisor.Equiv.Segments
import ZppHypervisor.X64.Equiv.SegmentDescriptor
import ZppHypervisor.Hypervisor.Equiv.GuestSegments
import ZppHypervisor.X64.Intel.Vmcs
import ZppHypervisor.Hypervisor.Equiv.VmxReports
import ZppHypervisor.Lib.MemoryWrites
import ZppHypervisor.X64.Asm
import ZppHypervisor.X64.Context
import ZppHypervisor.X64.Equiv.Context
import ZppHypervisor.X64.Equiv.RestoreContext
import ZppHypervisor.Hypervisor.Equiv.Capacities
import ZppHypervisor.Lib.BitWrite
import ZppHypervisor.X64.Equiv.SegmentDescriptorFields
import ZppHypervisor.Hypervisor.Equiv.IntermediateGdt
import ZppHypervisor.X64.Intel.EptPointer
import ZppHypervisor.X64.Accessor
import ZppHypervisor.X64.Equiv.Accessor
import ZppHypervisor.X64.Equiv.MapPages
import ZppHypervisor.Equiv.SmallMapCopy
import ZppHypervisor.Crt
import ZppHypervisor.Equiv.Crt
import ZppHypervisor.FileDevicePath
import ZppHypervisor.Equiv.FileDevicePath
import ZppHypervisor.Hypervisor.Equiv.Emulate
import ZppHypervisor.Hypervisor.Equiv.VmExit
import ZppHypervisor.Hypervisor.Equiv.Start
import ZppHypervisor.Hypervisor.Guests
import ZppHypervisor.Hypervisor.Equiv.ExitMemory
import ZppHypervisor.Hypervisor.Equiv.HostSpace
import ZppHypervisor.Hypervisor.Equiv.Guests
import ZppHypervisor.Equiv.LoaderGuests
import ZppHypervisor.X64.Intel.VmcsFields
import ZppHypervisor.Hypervisor.SetupVmcs
import ZppHypervisor.X64.Intel.VmEntryChecks
import ZppHypervisor.Hypervisor.Equiv.SetupVmcs
import ZppHypervisor.Hypervisor.Equiv.VmEntry
import ZppHypervisor.Equiv.LoaderVmcs
import ZppHypervisor.OsLoaders
import ZppHypervisor.Equiv.CallOnCpu
import ZppHypervisor.Equiv.OsLoaders
