/-
  Gui/Actions.lean --- the actions of the client's window (`crates/farbus-gui/src/actions.rs`).

  Each is given what the calls it awaits come to, an error being its text.
-/
import FarBus.Core.Collect
import FarBus.Gui.Devices

set_option autoImplicit false

namespace FarBus.Gui

open FarBus.Foundation
open FarBus.Protocol
open FarBus.Core

/-- `IpAddr::is_loopback` of the address. -/
def isLoopback : SocketAddr → Bool
  | .v4 ip _ => ip.get 0 == 127
  | .v6 ip _ _ _ => ip == #v[0, 0, 0, 0, 0, 0, 0, 1]

def loopbackUsbip (addr : SocketAddr) : Option SocketAddr :=
  if isLoopback addr then some addr else none

/-- The server of a beacon. -/
def discovered (beacon : Beacon) : DiscoveredServer :=
  { hostname := beacon.2.2, addr := beacon.2.1, fingerprint := beacon.1 }

/-- `scan_servers`, by what `discovery::collect` found. -/
def scanServers (found : Except String (List Beacon)) : Except String (List DiscoveredServer) :=
  found.map fun beacons => beacons.map discovered

/-- `probe_server`.  The handshake is with the address that the host stands for, and says
which certificate was seen. -/
def probeServer (text : AddressText) (host : String)
    (handshake : SocketAddr → Except String PeerFingerprint) : Except String DiscoveredServer := do
  let draft ← parseManualServer text host ""
  let fingerprint ← handshake draft.addr
  pure { hostname := draft.hostname, addr := draft.addr, fingerprint }

/-- The check `pair_server` begins with. -/
def isPin (pin : String) : Bool := pin.utf8ByteSize == 6 && pin.toList.all isAsciiDigit

/-- `pair_server`, by what connecting, pairing and saving the session come to. -/
def pairServer (addr : SocketAddr) (fingerprint : PeerFingerprint) (pin : String)
    (paired : Except String Unit) : Except String GuiSession :=
  if isPin pin then paired.map fun _ => { addr, fingerprint }
  else .error "enter the 6-digit PIN from the server"

/-- `attach_device`, with the bus id of what it returns. -/
def attachDevice (usbipListen : SocketAddr) (attached : Except String String) :
    Except String String :=
  match loopbackUsbip usbipListen with
  | none => .error "USB/IP listener must use a loopback address"
  | some _ => attached

/-! ## A scan, from the air to the window -/

theorem entryOf_discovered (fingerprint : PeerFingerprint) (beacons : List Beacon) :
    entryOf DiscoveredServer.fingerprint fingerprint (beacons.map discovered) =
      (entryOf Prod.fst fingerprint beacons).map discovered := by
  rw [entryOf, List.find?_map]
  rfl

theorem fingerprints_discovered (beacons : List Beacon) :
    fingerprints (beacons.map discovered) = beacons.map Prod.fst := by
  rw [fingerprints, List.map_map]
  rfl

/-- After a scan the window shows a server as the first of its beacons that was received
says, and a server without one as before; nothing leaves its place in the list. -/
theorem scan_shows_announced {text : AddressText} {bindAny bindLoopback : Except IoErrorKind Unit}
    {events : List RecvEvent} {announced : List Beacon} (airs : Airs text events announced)
    (bound : bindAny = .ok () ∨ bindLoopback = .ok ()) (errText : IoErrorKind → String)
    (text' : AddressText) (state : GuiState) :
    ∃ servers,
      scanServers ((discoveryCollect text bindAny bindLoopback events).mapError errText) = .ok servers ∧
      fingerprints state.servers <+:
        fingerprints (state.apply text' (.serversFound servers)).servers ∧
      ∀ fingerprint, entryOf DiscoveredServer.fingerprint fingerprint
          (state.apply text' (.serversFound servers)).servers =
        ((entryOf Prod.fst fingerprint announced).map discovered).or
          (entryOf DiscoveredServer.fingerprint fingerprint state.servers) := by
  have hfound := collect_of_airs airs bound
  refine ⟨(pushAllNew Prod.fst announced []).map discovered, by rw [hfound]; rfl,
    state.fingerprints_prefix_apply _ _, ?_⟩
  intro fingerprint
  have hdistinct : (fingerprints ((pushAllNew Prod.fst announced []).map discovered)).Nodup := by
    rw [fingerprints_discovered]
    exact nodup_keys_pushAllNew Prod.fst announced List.nodup_nil
  refine (entryOf_replaceOrPushAll DiscoveredServer.fingerprint _ _ _).trans ?_
  rw [entryOf_reverse _ hdistinct, entryOf_discovered, entryOf_pushAllNew]
  rfl

/-- A server that was typed in is found under another address. -/
theorem sample_scan_shows_announced :
    let beacon : Beacon := (Vector.replicate 32 7, Core.Sample.loopbackAddr, "farbus-pi")
    let bytes := encodeBeacon Core.Sample.loopbackText beacon.1 beacon.2.1 beacon.2.2
    ∃ servers, scanServers ((discoveryCollect Core.Sample.loopbackText (.ok ()) (.ok ())
        [.datagram bytes]).mapError fun _ => "") = .ok servers ∧
      fingerprints Sample.scanned.servers <+:
        fingerprints (Sample.scanned.apply Sample.offline (.serversFound servers)).servers ∧
      ∀ fingerprint, entryOf DiscoveredServer.fingerprint fingerprint
          (Sample.scanned.apply Sample.offline (.serversFound servers)).servers =
        ((entryOf Prod.fst fingerprint [beacon]).map discovered).or
          (entryOf DiscoveredServer.fingerprint fingerprint Sample.scanned.servers) := by
  intro beacon bytes
  exact scan_shows_announced (.beacon ⟨rfl, by decide, by decide, by decide⟩ .nil) (.inl rfl) _ _ _

end FarBus.Gui
