/-
  Core/UsbipManagement.lean --- the loopback USB/IP listener of
  `crates/farbus-core/src/usbip_proxy.rs`: `handle_client`, which lists the exported
  devices and lets a client import one of them, and then runs `serve_urbs` for it.

  A connection works on the devices that were present when it was accepted.  It begins
  with requests, each answered by a reply on the spot; an import that finds its device
  turns it into a URB loop, which gets no more of the device than its id.
-/
import Mathlib.Data.List.DropRight
import FarBus.Core.UsbipProxy

set_option autoImplicit false

namespace FarBus.Core

open FarBus.Foundation
open FarBus.Protocol

/-! ## The records of a device -/

/-- The text in a field of `n` bytes, cut so that a NUL follows it. -/
def padded (src : String) (n : Nat) : Bytes :=
  let bytes := strBytes src
  let copy := min bytes.length (n - 1)
  bytes.take copy ++ List.replicate (n - copy) 0

/-- `str::parse::<u32>`. -/
def parseU32 (s : String) : Option UInt32 :=
  let digits := match s.toList with
    | '+' :: digits => digits
    | digits => digits
  if digits = [] ∨ digits.any (fun c => !c.isDigit) then none
  else
    let value := digits.foldl (fun value c => 10 * value + (c.toNat - '0'.toNat)) 0
    if value < 2 ^ 32 then some (UInt32.ofNat value) else none

/-- `bus_id.split('-').next()`. -/
def beforeDash (busId : String) : String := String.ofList (busId.toList.takeWhile (· ≠ '-'))

def speedCode : UsbSpeed → UInt32
  | .low => 1
  | .full => 2
  | .high => 3
  | .super => 5

/-- Encodes a 312-byte `usbip_usb_device` structure. -/
def encodeDeviceHeader (device : LocalDevice) : Bytes :=
  let busnum := (parseU32 (beforeDash device.info.busId)).getD 1
  let niface := max device.info.interfaces.length 1
  padded ("/sys/bus/usb/devices/" ++ device.info.busId) 256 ++ padded device.info.busId 32 ++
    u32Be busnum ++ u32Be device.info.id ++ u32Be (speedCode device.info.speed) ++
    u16Be device.info.vid ++ u16Be device.info.pid ++ u16Be 0x0100 ++
    [device.info.usbClass, 0, 0, 1, 1, if niface < 256 then UInt8.ofNat niface else 1]

def encodeInterfaces (device : LocalDevice) : Bytes :=
  if device.info.interfaces = [] then [device.info.usbClass, 0, 0, 0]
  else device.info.interfaces.flatMap fun iface =>
    [iface.interfaceClass, iface.interfaceSubclass, iface.interfaceProtocol, 0]

/-! ## Requests and replies -/

inductive UsbipRequest where
  | devlist
  | importDevice (busid : Bytes)
  deriving DecidableEq, Repr

/-- What one iteration of the loop reads.  `none` where the handler returns. -/
def readRequest (input : Bytes) : Option (UsbipRequest × Bytes) := do
  let (header, input) ← readExact 8 input
  let version := UInt16.ofNat (ofBe (header.take 2))
  let command := UInt16.ofNat (ofBe ((header.drop 2).take 2))
  guard (version = USBIP_VERSION)
  if command = OP_REQ_DEVLIST then return (.devlist, input)
  else
    guard (command = OP_REQ_IMPORT)
    let (busid, input) ← readExact 32 input
    return (.importDevice busid, input)

/-- `trim_end_matches('\0')`. -/
def trimNuls (s : String) : String := String.ofList (s.toList.rdropWhile (· = Char.ofNat 0))

/-- The bus id that a request names; none at all where the field is not UTF-8. -/
def requestedBusId (busid : Bytes) : String :=
  trimNuls (match Cursor.fromUtf8 busid with
    | .ok s => s
    | .error _ => "")

def devlistReply (devices : List LocalDevice) : Bytes :=
  u16Be USBIP_VERSION ++ u16Be OP_REP_DEVLIST ++ u32Be 0 ++
    -- `u32::try_from(devices.len()).unwrap_or(0)`
    u32Be (if devices.length < 2 ^ 32 then UInt32.ofNat devices.length else 0) ++
    devices.flatMap fun device => encodeDeviceHeader device ++ encodeInterfaces device

def findByBusId (devices : List LocalDevice) (requested : String) : Option LocalDevice :=
  devices.find? fun device => device.info.busId = requested

def importReply : Option LocalDevice → Bytes
  | some device =>
      u16Be USBIP_VERSION ++ u16Be OP_REP_IMPORT ++ u32Be 0 ++ encodeDeviceHeader device
  | none => u16Be USBIP_VERSION ++ u16Be OP_REP_IMPORT ++ u32Be 4

/-- An `OP_REQ_IMPORT` as a client sends it. -/
def importRequest (busid : Bytes) : Bytes :=
  u16Be USBIP_VERSION ++ u16Be OP_REQ_IMPORT ++ u32Be 0 ++ busid

theorem readRequest_importRequest {busid : Bytes} (h : busid.length = 32) (rest : Bytes) :
    readRequest (importRequest busid ++ rest) = some (.importDevice busid, rest) := by
  have hheader : readExact 8 (importRequest busid ++ rest) =
      some (u16Be USBIP_VERSION ++ u16Be OP_REQ_IMPORT ++ u32Be 0, busid ++ rest) := by
    rw [importRequest, List.append_assoc]
    exact readExact_append rfl _
  have hbusid : readExact 32 (busid ++ rest) = some (busid, rest) := readExact_append h rest
  unfold readRequest
  rw [hheader, Option.bind_eq_bind, Option.bind_some]
  dsimp only
  rw [hbusid]
  rfl

/-! ## A connection of the listener -/

inductive LoopbackConn where
  /-- in the loop of `handle_client_filtered` -/
  | managing (input : Bytes) (written : List Bytes)
  /-- in `serve_urbs` for an imported device -/
  | serving (device : LocalDevice) (written : List Bytes) (conn : UsbipConn)
  | closed

inductive LoopbackAction where
  /-- a request is read and answered -/
  | request
  /-- `stream.write_all` fails -/
  | writeFails
  /-- a step of `serve_urbs` -/
  | urbs (act : UsbipAction)

namespace LoopbackConn

/-- `handle_client_filtered`, one step of it. -/
def handleClientFiltered (devices : List LocalDevice) (self : LoopbackConn) :
    LoopbackAction → Option LoopbackConn
  | .request =>
      match self with
      | .managing input written =>
          match readRequest input with
          | none => some .closed
          | some (.devlist, input) => some (.managing input (written ++ [devlistReply devices]))
          | some (.importDevice busid, input) =>
              match findByBusId devices (requestedBusId busid) with
              | some device =>
                  some (.serving device (written ++ [importReply (some device)]) { input })
              | none => some (.managing input (written ++ [importReply none]))
      | _ => none
  | .writeFails =>
      match self with
      | .managing _ _ => some .closed
      | _ => none
  | .urbs act =>
      match self with
      | .serving device written conn =>
          (conn.step (serveUrbs device.info.id) act).map (LoopbackConn.serving device written)
      | _ => none

def exportedOnly (devices : List LocalDevice) : List LocalDevice :=
  devices.filter fun device => device.info.exported

/-- `handle_client`.  Both functions drop what is not exported. -/
def handleClient (devices : List LocalDevice) (self : LoopbackConn) (act : LoopbackAction) :
    Option LoopbackConn :=
  handleClientFiltered (exportedOnly (exportedOnly devices)) self act

/-- The runs of a connection whose client sends `input`, on the devices present when it
was accepted. -/
abbrev Runs (devices : List LocalDevice) (input : Bytes)
    (history : History LoopbackConn LoopbackAction) (conn : LoopbackConn) : Prop :=
  Run (handleClient devices) (.managing input []) history conn

theorem exportedOnly_exportedOnly (devices : List LocalDevice) :
    exportedOnly (exportedOnly devices) = exportedOnly devices := by
  unfold exportedOnly
  rw [List.filter_filter]
  exact congrArg (devices.filter ·) (funext fun device => Bool.and_self device.info.exported)

/-- The steps, with their guards. -/
inductive StepCases (devices : List LocalDevice) : LoopbackConn → LoopbackAction → LoopbackConn →
    Prop where
  | left {input : Bytes} {written : List Bytes} (ended : readRequest input = none) :
      StepCases devices (.managing input written) .request .closed
  | answered {input rest : Bytes} {written : List Bytes} {request : UsbipRequest} (reply : Bytes)
      (received : readRequest input = some (request, rest)) :
      StepCases devices (.managing input written) .request (.managing rest (written ++ [reply]))
  | imported {input rest busid : Bytes} {written : List Bytes} {device : LocalDevice}
      (received : readRequest input = some (.importDevice busid, rest))
      (found : findByBusId (exportedOnly devices) (requestedBusId busid) = some device) :
      StepCases devices (.managing input written) .request
        (.serving device (written ++ [importReply (some device)]) { input := rest })
  | writeFailed {input : Bytes} {written : List Bytes} :
      StepCases devices (.managing input written) .writeFails .closed
  | urbs {device : LocalDevice} {written : List Bytes} {conn conn' : UsbipConn} {act : UsbipAction}
      (taken : conn.step (serveUrbs device.info.id) act = some conn') :
      StepCases devices (.serving device written conn) (.urbs act) (.serving device written conn')

theorem step_cases {devices : List LocalDevice} {w w' : LoopbackConn} {act : LoopbackAction}
    (h : handleClient devices w act = some w') : StepCases devices w act w' := by
  unfold handleClient at h
  rw [exportedOnly_exportedOnly] at h
  cases act with
  | request =>
      cases w with
      | managing input written =>
          dsimp only [handleClientFiltered] at h
          split at h
          · rename_i ended
            cases h
            exact .left ended
          · rename_i rest received
            cases h
            exact .answered _ received
          · rename_i busid rest received
            split at h
            · rename_i device found
              cases h
              exact .imported received found
            · cases h
              exact .answered _ received
      | serving | closed => cases h
  | writeFails =>
      cases w with
      | managing input written =>
          cases h
          exact .writeFailed
      | serving | closed => cases h
  | urbs act =>
      cases w with
      | serving device written conn =>
          obtain ⟨conn', taken, rfl⟩ := Option.map_eq_some_iff.mp h
          exact .urbs taken
      | managing | closed => cases h

end LoopbackConn

end FarBus.Core
