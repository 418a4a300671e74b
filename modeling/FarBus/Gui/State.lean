/-
  Gui/State.lean --- the state of the client's window and what each event does to it
  (`crates/farbus-gui/src/lib.rs`).

  How addresses are read and names are resolved is a parameter: resolving a name may have
  another outcome at every event.
-/
import FarBus.Foundation.KeyedList
import FarBus.Core.Address
import FarBus.Core.Files
import FarBus.Core.Fingerprint

set_option autoImplicit false

namespace FarBus.Gui

open FarBus.Foundation
open FarBus.Protocol
open FarBus.Core

structure DiscoveredServer where
  hostname : String
  addr : SocketAddr
  fingerprint : PeerFingerprint
  deriving DecidableEq, Repr

structure GuiDevice where
  id : DeviceId
  busId : String
  product : String
  vid : UInt16
  pid : UInt16
  attached : Bool
  deriving DecidableEq, Repr

structure GuiSession where
  addr : SocketAddr
  fingerprint : PeerFingerprint
  deriving DecidableEq, Repr

inductive GuiPhase where
  | idle
  | scanning
  | pairing
  | ready
  | forwarding
  | error (text : String)
  deriving DecidableEq, Repr

inductive GuiEvent where
  | scanStarted
  | serversFound (servers : List DiscoveredServer)
  | serverSelected (fingerprint : PeerFingerprint)
  | pinChanged (raw : String)
  | pairStarted
  | pairSucceeded (addr : SocketAddr) (fingerprint : PeerFingerprint)
  | pairRejected (reason : String)
  | devicesLoaded (devices : List GuiDevice)
  | attachSucceeded (id : DeviceId) (busId : String)
  | detachSucceeded (id : DeviceId)
  | usbipListenRejected (addr : String)
  | failed (reason : String)
  | manualHostChanged (host : String)
  | manualFingerprintChanged (fp : String)
  | manualServerAdded
  | trayHidden
  | trayShown
  deriving DecidableEq, Repr

/-- `DEFAULT_USBIP`. -/
def defaultUsbip : SocketAddr := .v4 LOCALHOST 3240

structure GuiState where
  phase : GuiPhase := .idle
  servers : List DiscoveredServer := []
  selected : Option PeerFingerprint := none
  devices : List GuiDevice := []
  session : Option GuiSession := none
  pin : String := ""
  manualHost : String := ""
  manualFingerprint : String := ""
  usbipListen : SocketAddr := defaultUsbip
  windowVisible : Bool := true
  focusRequested : Bool := false

/-- `GuiState::new`. -/
def GuiState.new : GuiState := {}

/-! ## What is typed in -/

def isAsciiDigit (c : Char) : Bool := '0' ≤ c && c ≤ '9'

def isAsciiHexdigit (c : Char) : Bool :=
  isAsciiDigit c || ('a' ≤ c && c ≤ 'f') || ('A' ≤ c && c ≤ 'F')

def isAsciiAlphabetic (c : Char) : Bool := ('a' ≤ c && c ≤ 'z') || ('A' ≤ c && c ≤ 'Z')

def sanitizePin (raw : String) : String :=
  String.ofList ((raw.toList.filter isAsciiDigit).take 6)

/-- What stays of a fingerprint that is typed in. -/
def sanitizeFingerprint (fp : String) : String :=
  String.ofList ((fp.toList.filter isAsciiHexdigit).take 64)

/-! ## A server typed in by hand -/

def hostHasPort (host : String) : Bool :=
  match host.toList with
  | '[' :: rest => rest.tails.any fun tail => [']', ':'].isPrefixOf tail
  | chars => chars.contains ':'

def resolveServerAddr (text : AddressText) (host : String) : Except String SocketAddr :=
  match text.parse host with
  | some addr => .ok addr
  | none =>
      let candidate := if hostHasPort host then host else host ++ ":7420"
      match text.toSocketAddrs candidate with
      | .error err => .error ("could not resolve " ++ candidate ++ ": " ++ err)
      | .ok [] => .error ("could not resolve " ++ candidate)
      | .ok (addr :: _) => .ok addr

def displayHostname (host : String) : String :=
  let parts := host.toList.splitOnP fun c => c == ':' || c == ']'
  match parts.find? fun part => !part.isEmpty && part.any isAsciiAlphabetic with
  | some part => String.ofList part
  | none => "manual"

def parseManualServer (text : AddressText) (host fingerprint : String) :
    Except String DiscoveredServer := do
  let host := trim host
  if host.isEmpty then
    throw "enter the server Tailscale name or IP:7420"
  let addr ← resolveServerAddr text host
  let fingerprint := trim fingerprint
  let fingerprint ←
    if fingerprint.isEmpty then pure (Vector.replicate 32 0)
    else
      match PeerFingerprint.fromStr fingerprint with
      | .ok fingerprint => pure fingerprint
      | .error _ => throw "fingerprint must be 64 hex characters from the Linux server"
  pure { hostname := displayHostname host, addr, fingerprint }

/-! ## Events -/

namespace GuiState

/-- A server of the same fingerprint is replaced, a new one comes last. -/
def mergeServers (state : GuiState) (incoming : List DiscoveredServer) : GuiState :=
  { state with servers := replaceOrPushAll DiscoveredServer.fingerprint incoming state.servers }

/-- The devices after `AttachSucceeded`. -/
def attachDevice (id : DeviceId) (busId : String) (device : GuiDevice) : GuiDevice :=
  let device := { device with attached := device.id == id }
  if device.id = id then { device with busId } else device

/-- The devices after `DetachSucceeded`. -/
def detachDevice (id : DeviceId) (device : GuiDevice) : GuiDevice :=
  if device.id = id then { device with attached := false } else device

/-- The phase after `ManualServerAdded`. -/
def manualPhase : GuiPhase → GuiPhase
  | .error _ | .idle | .scanning => .idle
  | .pairing => .pairing
  | .ready => .ready
  | .forwarding => .forwarding

/-- A server of a fingerprint that is there is not put in its place. -/
def pushServer (state : GuiState) (server : DiscoveredServer) : GuiState :=
  if state.servers.any fun existing => existing.fingerprint == server.fingerprint then state
  else { state with servers := state.servers ++ [server] }

def apply (text : AddressText) (state : GuiState) : GuiEvent → GuiState
  | .scanStarted => { state with phase := .scanning }
  | .serversFound servers =>
      { state.mergeServers servers with
        phase := if state.phase = .scanning then .idle else state.phase }
  | .serverSelected fingerprint => { state with selected := some fingerprint }
  | .pinChanged raw => { state with pin := sanitizePin raw }
  | .pairStarted =>
      { state with
        phase :=
          if state.pin.utf8ByteSize = 6 then .pairing
          else .error "enter the 6-digit PIN from the server" }
  | .pairSucceeded addr fingerprint =>
      { state with
        pin := ""
        selected := some fingerprint
        session := some { addr, fingerprint }
        phase := .ready }
  | .pairRejected reason => { state with phase := .error reason }
  | .failed reason => { state with phase := .error reason }
  | .devicesLoaded devices =>
      { state with
        devices
        phase := if state.session.isSome ∧ state.phase ≠ .forwarding then .ready else state.phase }
  | .attachSucceeded id busId =>
      { state with devices := state.devices.map (attachDevice id busId), phase := .forwarding }
  | .detachSucceeded id =>
      let devices := state.devices.map (detachDevice id)
      { state with
        devices
        phase := if devices.any GuiDevice.attached then .forwarding else .ready }
  | .usbipListenRejected _ =>
      { state with phase := .error "USB/IP listener must use a loopback address" }
  | .manualHostChanged host => { state with manualHost := host }
  | .manualFingerprintChanged fp => { state with manualFingerprint := sanitizeFingerprint fp }
  | .manualServerAdded =>
      match parseManualServer text state.manualHost state.manualFingerprint with
      | .ok server =>
          { state.pushServer server with
            selected := some server.fingerprint
            phase := manualPhase state.phase }
      | .error err => { state with phase := .error err }
  | .trayHidden => { state with windowVisible := false, focusRequested := false }
  | .trayShown => { state with windowVisible := true, focusRequested := true }

end GuiState

/-- An event, and what `std` makes of addresses while it is handled. -/
structure GuiAction where
  text : AddressText
  event : GuiEvent

/-- Every event can happen in every state. -/
def guiStep (state : GuiState) (action : GuiAction) : Option GuiState :=
  some (state.apply action.text action.event)

end FarBus.Gui
