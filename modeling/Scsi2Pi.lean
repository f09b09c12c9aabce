import Scsi2Pi.Slices
import Scsi2Pi.WriteBack
import Scsi2Pi.Mealy
import Scsi2Pi.SlotTable
import Scsi2Pi.MachineInt
import Scsi2Pi.FileSystem
import Scsi2Pi.SectorArray
import Scsi2Pi.DiskTrack
import Scsi2Pi.DiskCache
import Scsi2Pi.DiskCacheRefinement
import Scsi2Pi.LinuxCache
import Scsi2Pi.Cache
import Scsi2Pi.Schedule
import Scsi2Pi.Bus
import Scsi2Pi.Handshake
import Scsi2Pi.HandshakeSafety
import Scsi2Pi.Scsi
import Scsi2Pi.CommandMetaData
import Scsi2Pi.MemoryUtil
import Scsi2Pi.Effect
import Scsi2Pi.Handler
import Scsi2Pi.PrimaryDevice
import Scsi2Pi.PageHandler
import Scsi2Pi.StorageDevice
import Scsi2Pi.Disk
import Scsi2Pi.Controller
import Scsi2Pi.DiskDrives
import Scsi2Pi.HostServices
import Scsi2Pi.Printer
import Scsi2Pi.DaynaPort
import Scsi2Pi.ScsiGeneric
import Scsi2Pi.S2pUtil
import Scsi2Pi.SimhUtil
import Scsi2Pi.Tape
import Scsi2Pi.HandlerContract
import Scsi2Pi.StorageContract
import Scsi2Pi.DiskContract
import Scsi2Pi.PeripheralContract
import Scsi2Pi.TapeMotion
import Scsi2Pi.TapeContract
import Scsi2Pi.AnyDevice
import Scsi2Pi.S2pInterface
import Scsi2Pi.PropertyHandler
import Scsi2Pi.DeviceFactory
import Scsi2Pi.CommandDispatcher
import Scsi2Pi.CommandExecutor
import Scsi2Pi.Trace
import Scsi2Pi.MessageOut
import Scsi2Pi.LinkedCommands
import Scsi2Pi.Bookkeeping
import Scsi2Pi.EjectLoad
import Scsi2Pi.ReservedFiles
import Scsi2Pi.DeviceProperties
import Scsi2Pi.TransferBudget
import Scsi2Pi.AllocationLength
import Scsi2Pi.AllocationRun
import Scsi2Pi.ModeSelect
import Scsi2Pi.SimhImage
import Scsi2Pi.S2pDumpExecutor
import Scsi2Pi.SgExecutor
import Scsi2Pi.ExecutorsAlike
import Scsi2Pi.TransfersAlike
import Scsi2Pi.TapeScan
import Scsi2Pi.S2pSimh
import Scsi2Pi.S2pSimhAdd
import Scsi2Pi.S2pDump
import Scsi2Pi.TapeDump
import Scsi2Pi.TapeRestore
import Scsi2Pi.LexicalPath
import Scsi2Pi.ImageSupport
import Scsi2Pi.ImageFolder
import Scsi2Pi.FilesInUse
import Scsi2Pi.ScriptGenerator
import Scsi2Pi.S2pExec
import Scsi2Pi.ScriptText
import Scsi2Pi.ScriptReplay
import Scsi2Pi.DiskClass
import Scsi2Pi.DiskAccess
import Scsi2Pi.TransferSizes
import Scsi2Pi.SectorAddresses
import Scsi2Pi.ParameterList
import Scsi2Pi.CacheGeometry
import Scsi2Pi.MediumGeometry
import Scsi2Pi.LinuxCacheRefinement
import Scsi2Pi.CacheRefinement
import Scsi2Pi.ImageAccess
import Scsi2Pi.S2pDumpDisk
import Scsi2Pi.DumpRange
import Scsi2Pi.TapeAccess
import Scsi2Pi.TapeByteCount
import Scsi2Pi.TapeOverflow
import Scsi2Pi.TapeWriting
import Scsi2Pi.TapeVariableRead
import Scsi2Pi.TapeRoundTrip
import Scsi2Pi.TapeErase
import Scsi2Pi.TapeSpace
import Scsi2Pi.TapeResidual
import Scsi2Pi.BlockDescriptors
import Scsi2Pi.LunDiscovery
import Scsi2Pi.CapacityTransfer
import Scsi2Pi.InitiatorExecutor
import Scsi2Pi.PacketSend
import Scsi2Pi.BlockSplit
import Scsi2Pi.TapeReader
import Scsi2Pi.FormatUnit
import Scsi2Pi.TapDriver
import Scsi2Pi.NumberText
import Scsi2Pi.ProtobufUtil
import Scsi2Pi.ReceivedData
import Scsi2Pi.TableOfContents
import Scsi2Pi.PrintJobs
import Scsi2Pi.PageAccess
import Scsi2Pi.EscapingExceptions
import Scsi2Pi.FaultyFile
import Scsi2Pi.DeviceList
import Scsi2Pi.DirtyTracks
import Scsi2Pi.LongTransfer
import Scsi2Pi.DeviceContract
import Scsi2Pi.SharedDisk
import Scsi2Pi.DumpOnBus
import Scsi2Pi.S2pProto
import Scsi2Pi.DetachedDisks
import Scsi2Pi.Restart
import Scsi2Pi.TapeCopy
