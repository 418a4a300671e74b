/-
  Core/ForwardManagement.lean --- the USB/IP listener of
  `crates/farbus-core/src/usbip_forward.rs` before it forwards anything: `handle_forward`,
  which answers requests for the devices of the remote server.

  It asks the remote server for its devices at each request and offers what it is told.
  What `FarBusClient::devices` and `FarBusClient::attach` return is part of the step's
  label.  Requests and replies are those of `handle_client_filtered`, written a second
  time in the source.
-/
import FarBus.Core.UsbipManagement

set_option autoImplicit false

namespace FarBus.Core

open FarBus.Foundation
open FarBus.Protocol

/-- `live_forward_devices`, by what `FarBusClient::devices` returned. -/
def liveForwardDevices : Except ClientError DeviceList → List LocalDevice
  | .ok list => list.devices.map fun info => { info, backend := .emulated }
  | .error _ => []

/-- The reply to `OP_REQ_DEVLIST`, with the interfaces written in place. -/
def forwardDevlistReply (devices : List LocalDevice) : Bytes :=
  u16Be USBIP_VERSION ++ u16Be OP_REP_DEVLIST ++ u32Be 0 ++
    u32Be (if devices.length < 2 ^ 32 then UInt32.ofNat devices.length else 0) ++
    devices.flatMap fun device => encodeDeviceHeader device ++
      (if device.info.interfaces = [] then [device.info.usbClass, 0, 0, 0]
       else device.info.interfaces.flatMap fun iface =>
        [iface.interfaceClass, iface.interfaceSubclass, iface.interfaceProtocol, 0])

/-- The reply to `OP_REQ_IMPORT` of a device that could not be attached. -/
def notAttachedReply : Bytes := u16Be USBIP_VERSION ++ u16Be OP_REP_IMPORT ++ u32Be 2

inductive ForwardConn where
  /-- in the loop of `handle_forward` -/
  | managing (input : Bytes) (written : List Bytes)
  /-- in `forward_urbs` for an imported device -/
  | serving (device : LocalDevice) (written : List Bytes) (conn : UsbipConn)
  | closed

inductive ForwardRequestAction where
  /-- a request is read and answered, with what the calls it makes return -/
  | request (listed : Except ClientError DeviceList) (attached : Except ClientError AttachResponse)
  /-- `stream.write_all` fails -/
  | writeFails
  /-- a step of `forward_urbs` -/
  | urbs (act : UsbipAction)

/-- `handle_forward`, one step of it. -/
def ForwardConn.handleForward (self : ForwardConn) : ForwardRequestAction → Option ForwardConn
  | .request listed attached =>
      match self with
      | .managing input written =>
          let devices := liveForwardDevices listed
          match readRequest input with
          | none => some .closed
          | some (.devlist, input) =>
              some (.managing input (written ++ [forwardDevlistReply devices]))
          | some (.importDevice busid, input) =>
              match findByBusId devices (requestedBusId busid) with
              | some device =>
                  match attached with
                  | .error _ => some (.managing input (written ++ [notAttachedReply]))
                  | .ok _ =>
                      some (.serving device (written ++ [importReply (some device)]) { input })
              | none => some (.managing input (written ++ [importReply none]))
      | _ => none
  | .writeFails =>
      match self with
      | .managing _ _ => some .closed
      | _ => none
  | .urbs act =>
      match self with
      | .serving device written conn =>
          (conn.step (forwardUrbs device.info.id) act).map (ForwardConn.serving device written)
      | _ => none

/-! ## The two listeners side by side -/

/-- The interfaces are written alike. -/
theorem forwardDevlistReply_eq (devices : List LocalDevice) :
    forwardDevlistReply devices = devlistReply devices := rfl

theorem liveForwardDevices_ok (devices : List LocalDevice) :
    liveForwardDevices (.ok { devices := devices.map fun device => device.info }) =
      devices.map fun device => { device with backend := .emulated } :=
  List.map_map

/-- No record shows where a device is attached. -/
theorem devlistReply_emulated (devices : List LocalDevice) :
    devlistReply (liveForwardDevices (.ok { devices := devices.map fun device => device.info })) =
      devlistReply devices := by
  rw [liveForwardDevices_ok, devlistReply, devlistReply, List.length_map, List.flatMap_map]
  rfl

theorem exportedOnly_of_exported {devices : List LocalDevice}
    (h : ∀ device ∈ devices, device.info.exported = true) :
    LoopbackConn.exportedOnly devices = devices :=
  List.filter_eq_self.mpr h

end FarBus.Core
