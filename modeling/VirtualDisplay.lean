import VirtualDisplay.Broker.Atomicity
import VirtualDisplay.Broker.Commands
import VirtualDisplay.Broker.HelperArguments
import VirtualDisplay.Broker.Output
import VirtualDisplay.Cli.Options
import VirtualDisplay.Cli.RoundTrip
import VirtualDisplay.Controller.Agreement
import VirtualDisplay.Controller.Basic
import VirtualDisplay.Controller.Condemning
import VirtualDisplay.Controller.Contract
import VirtualDisplay.Controller.Feeding
import VirtualDisplay.Controller.Fencing
import VirtualDisplay.Controller.Frames
import VirtualDisplay.Controller.ManifestAgreement
import VirtualDisplay.Controller.Orphans
import VirtualDisplay.Controller.Queries
import VirtualDisplay.Controller.Records
import VirtualDisplay.Controller.Rejections
import VirtualDisplay.Controller.Renaming
import VirtualDisplay.Controller.Rollback
import VirtualDisplay.Controller.Turns
import VirtualDisplay.DisplayIdentity
import VirtualDisplay.Drm.Commit
import VirtualDisplay.Drm.Composer
import VirtualDisplay.Drm.Composition
import VirtualDisplay.Drm.CrcWorker
import VirtualDisplay.Drm.Config
import VirtualDisplay.Drm.Device
import VirtualDisplay.Drm.DumbBuffer
import VirtualDisplay.Drm.Frames
import VirtualDisplay.Drm.PixelLines
import VirtualDisplay.Drm.Presentation
import VirtualDisplay.Drm.Quiesce
import VirtualDisplay.Drm.RequestedMode
import VirtualDisplay.Drm.Timing
import VirtualDisplay.Drm.Trace
import VirtualDisplay.Drm.Writeback
import VirtualDisplay.Drm.WritebackJobs
import VirtualDisplay.Edid.Basic
import VirtualDisplay.Edid.CtaBlocks
import VirtualDisplay.Edid.RoundTrip
import VirtualDisplay.Edid.Timing
import VirtualDisplay.FrameRing.Cookies
import VirtualDisplay.FrameRing.Gates
import VirtualDisplay.FrameRing.Lifetime
import VirtualDisplay.FrameRing.Server
import VirtualDisplay.FrameRing.SlotProtocol
import VirtualDisplay.FrameRing.Tables
import VirtualDisplay.Ioctl.Dispatcher
import VirtualDisplay.Ioctl.Requests
import VirtualDisplay.Kwin.RenderDevice
import VirtualDisplay.LeaseStore.Allocation
import VirtualDisplay.LeaseStore.Basic
import VirtualDisplay.LeaseStore.Changes
import VirtualDisplay.LeaseStore.Configuration
import VirtualDisplay.LeaseStore.Connectors
import VirtualDisplay.LeaseStore.Expiry
import VirtualDisplay.LeaseStore.Generations
import VirtualDisplay.LeaseStore.Identities
import VirtualDisplay.LeaseStore.Isolation
import VirtualDisplay.LeaseStore.Leases
import VirtualDisplay.LeaseStore.Manifest
import VirtualDisplay.LeaseStore.Ownership
import VirtualDisplay.LeaseStore.PermanentSettings
import VirtualDisplay.LeaseStore.Placement
import VirtualDisplay.LeaseStore.Renaming
import VirtualDisplay.LeaseStore.Reservations
import VirtualDisplay.Lib.Bits
import VirtualDisplay.Lib.ByteCodec
import VirtualDisplay.Lib.CommandLine
import VirtualDisplay.Lib.Counting
import VirtualDisplay.Lib.Cursor
import VirtualDisplay.Lib.Lockstep
import VirtualDisplay.Lib.OrdMap
import VirtualDisplay.Lib.Ring
import VirtualDisplay.Lib.Run
import VirtualDisplay.Lib.Scan
import VirtualDisplay.Lib.Script
import VirtualDisplay.Lib.Sha1
import VirtualDisplay.Lib.SlotCalls
import VirtualDisplay.Lib.Span
import VirtualDisplay.Lib.Unique
import VirtualDisplay.Protocol
import VirtualDisplay.Vkms.Broker
import VirtualDisplay.Vkms.ControlClient
import VirtualDisplay.Vkms.Ownership
import VirtualDisplay.Vkms.Pool
import VirtualDisplay.Vkms.PoolDevice
import VirtualDisplay.Vkms.Recovery
import VirtualDisplay.WindowsDriver.Cleanups
import VirtualDisplay.WindowsDriver.DeviceIdentity
import VirtualDisplay.WindowsDriver.Lifecycle
import VirtualDisplay.WindowsDriver.Modes
import VirtualDisplay.WindowsDriver.MonitorDescription
import VirtualDisplay.WindowsDriver.Monitors
import VirtualDisplay.WindowsDriver.PermanentMonitors
import VirtualDisplay.WindowsDriver.Profiles
import VirtualDisplay.WindowsDriver.RegisteredModes
import VirtualDisplay.WindowsDriver.State
import VirtualDisplay.WindowsDriver.Swapchain
