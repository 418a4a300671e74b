import FarBus.Foundation.BigEndian
import FarBus.Foundation.Codec
import FarBus.Foundation.Transition
import FarBus.Foundation.Simulation
import FarBus.Foundation.Channel
import FarBus.Foundation.Epoch
import FarBus.Foundation.Table
import FarBus.Foundation.Conservation
import FarBus.Foundation.Correlation
import FarBus.Foundation.Text
import FarBus.Protocol.Message
import FarBus.Protocol.Format
import FarBus.Protocol.Encode
import FarBus.Protocol.Decode
import FarBus.Protocol.Canonical
import FarBus.Protocol.Usbip
import FarBus.Protocol.Debug
import FarBus.Core.Frame
import FarBus.Core.FrameBounds
import FarBus.Core.Lease
import FarBus.Core.Identity
import FarBus.Core.Inventory
import FarBus.Core.Urb
import FarBus.Core.Session
import FarBus.Core.SessionStep
import FarBus.Core.History
import FarBus.Core.Authorization
import FarBus.Core.ReplyMeaning
import FarBus.Core.Tokens
import FarBus.Core.LeaseRuns
import FarBus.Core.Revocation
import FarBus.Core.LeaseLifetime
import FarBus.Core.Execution
import FarBus.Core.Client
import FarBus.Core.UsbipForward
import FarBus.Core.CompletionRouting
import FarBus.Core.DeviceIds
import FarBus.Core.PresenceTokens
import FarBus.Core.SessionEnd
import FarBus.Core.Completions
import FarBus.Core.UsbipProxy
import FarBus.Core.Direction
import FarBus.Core.UsbipReplies
import FarBus.Core.UsbipUnlink
import FarBus.Core.UsbipPdu
import FarBus.Core.ServerReplies
import FarBus.Core.DataPlane
import FarBus.Core.ReplySizes
import FarBus.Core.Sysfs
import FarBus.Core.ControlReplies
import FarBus.Core.ClientResults
import FarBus.Foundation.Exchange
import FarBus.Core.Linked
import FarBus.Core.Recovery
import FarBus.Core.RecoveryRuns
import FarBus.Core.RecoveryProgress
import FarBus.Core.RecoverySurvival
import FarBus.Core.SessionUrbs
import FarBus.Core.LinkedUrbs
import FarBus.Core.Forwarder
import FarBus.Core.ForwarderReplies
import FarBus.Core.ForwarderRuns
import FarBus.Core.SessionProgress
import FarBus.Core.LinkedProgress
import FarBus.Core.ForwarderProgress
import FarBus.Core.ForwarderRefinement
import FarBus.Core.Overrun
import FarBus.Core.PinBudget
import FarBus.Core.Noninterference
import FarBus.Core.PinBinding
import FarBus.Core.ExportPolicy
import FarBus.Core.UsbipManagement
import FarBus.Core.ForwardManagement
import FarBus.Core.EmulatorUse
import FarBus.Core.HostTransfer
import FarBus.Core.RightDevice
import FarBus.Core.ExactlyOnce
import FarBus.Core.Backpressure
import FarBus.Foundation.Directory
import FarBus.Core.Fingerprint
import FarBus.Core.Files
import FarBus.Core.Store
import FarBus.Core.Persist
import FarBus.Core.InventoryRefresh
import FarBus.Core.UsbipDevlist
import FarBus.Core.Topology
import FarBus.Core.Address
import FarBus.Core.Discovery
import FarBus.Core.HexText
import FarBus.Core.IpText
import FarBus.Core.Path
import FarBus.Foundation.KeyedList
import FarBus.Gui.State
import FarBus.Gui.Servers
import FarBus.Gui.Devices
import FarBus.Gui.ManualAddress
import FarBus.Gui.Servers
import FarBus.Gui.Devices
import FarBus.Gui.ManualAddress
import FarBus.Core.IpText
import FarBus.Gui.ManualAddress
import FarBus.Core.ByteLink
import FarBus.Foundation.Race
import FarBus.Core.Happy
import FarBus.Core.Reconnect
import FarBus.Core.Connection
import FarBus.Core.Collect
import FarBus.Foundation.Grounded
import FarBus.Gui.Actions
import FarBus.Gui.App
import FarBus.Gui.AppRuns
