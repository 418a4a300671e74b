/-
  Core/UsbipForward.lean --- the client's USB/IP forwarder,
  `crates/farbus-core/src/usbip_forward.rs`: what `forward_urbs` makes of a
  `USBIP_CMD_SUBMIT`.

  Every connection runs a loop of its own for the device it has imported; all of them
  submit through clones of one `FarBusClient`.
-/
import FarBus.Protocol.Usbip
import FarBus.Protocol.Encode

set_option autoImplicit false

namespace FarBus.Core

open FarBus.Foundation
open FarBus.Protocol

/-- The longest transfer buffer that is forwarded. -/
def MAX_TRANSFER : Nat := 65536

/-- How many bytes of payload follow the header. -/
def outPayloadLength (cmd : UsbipCmdSubmit) : Nat :=
  if cmd.direction = 0 ∧ cmd.transferBufferLength > 0 then cmd.transferBufferLength.toNat else 0

def forwardTransfer (cmd : UsbipCmdSubmit) : TransferType :=
  if cmd.ep = 0 then .control
  else if cmd.ep &&& 0x80 ≠ 0 ∧ cmd.transferBufferLength ≤ 64 then .interrupt
  else .bulk

/-- The URB that `forward_urbs` submits.  `none` where the loop is left. -/
def forwardUrb (deviceId : DeviceId) (cmd : UsbipCmdSubmit) (outPayload : Bytes) :
    Option UrbSubmit :=
  if cmd.transferBufferLength.toNat > MAX_TRANSFER then none
  else
    let submit :=
      urbSubmitData cmd.ep cmd.direction cmd.setup cmd.transferBufferLength outPayload
    some
      { seq := cmd.seqnum
        deviceId
        -- `u8::try_from(cmd.ep).unwrap_or(0)`
        endpoint := if cmd.ep.toNat < 256 then cmd.ep.toUInt8 else 0
        transfer := forwardTransfer cmd
        requestedLength := submit.2
        data := submit.1 }

/-- The URB that `serve_urbs` and `forward_urbs` make of a submit they go on with. -/
def usbipUrb (deviceId : DeviceId) (cmd : UsbipCmdSubmit) (outPayload : Bytes) : UrbSubmit :=
  let submit := urbSubmitData cmd.ep cmd.direction cmd.setup cmd.transferBufferLength outPayload
  { seq := cmd.seqnum
    deviceId
    -- `u8::try_from(cmd.ep).unwrap_or(0)`
    endpoint := if cmd.ep.toNat < 256 then cmd.ep.toUInt8 else 0
    transfer := forwardTransfer cmd
    requestedLength := submit.2
    data := submit.1 }

theorem forwardUrb_eq_some {deviceId : DeviceId} {cmd : UsbipCmdSubmit} (outPayload : Bytes)
    (h : ¬ cmd.transferBufferLength.toNat > MAX_TRANSFER) :
    forwardUrb deviceId cmd outPayload = some (usbipUrb deviceId cmd outPayload) := by
  rw [forwardUrb, if_neg h]
  rfl

/-- A URB that some connection forwards. -/
def Forwarded (urb : UrbSubmit) : Prop :=
  ∃ deviceId cmd outPayload, outPayload.length = outPayloadLength cmd ∧
    forwardUrb deviceId cmd outPayload = some urb

/-- A URB that is forwarded fits in a frame. -/
theorem Forwarded.encodable {urb : UrbSubmit} (h : Forwarded urb) : Encodable (.urbSubmit urb) := by
  obtain ⟨deviceId, cmd, outPayload, hlength, hforward⟩ := h
  unfold forwardUrb at hforward
  split at hforward
  · cases hforward
  · rename_i hmax
    have hpayload : outPayload.length ≤ MAX_TRANSFER := by
      rw [hlength]
      unfold outPayloadLength
      split <;> omega
    have hdata := length_urbSubmitData_le cmd.ep cmd.direction cmd.setup cmd.transferBufferLength
      outPayload
    have htransfer : MAX_TRANSFER = 65536 := rfl
    have hframe : MAX_PAYLOAD = 65600 := rfl
    rw [Option.some.injEq] at hforward
    subst hforward
    rw [encodable_urbSubmit_iff]
    dsimp only
    omega

end FarBus.Core
