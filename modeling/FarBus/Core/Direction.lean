/-
  Core/Direction.lean --- the direction of a transfer, from USB/IP to the backends.

  A USB/IP submit has its direction in a field of its own and names its endpoint by
  number.  A URB has no such field: the emulator and the host path look at bit 7 of the
  endpoint address.  The loops pass the endpoint number through as the address, without
  that bit, so what they submit is executed as an OUT transfer whatever the command says.
-/
import FarBus.Core.UsbipProxy

set_option autoImplicit false

namespace FarBus.Core

open FarBus.Foundation
open FarBus.Protocol

/-- What `bulk` and `interrupt` of the host path ask of libusb. -/
inductive StreamCall where
  /-- a read into a buffer of `size` bytes -/
  | read (size : Nat)
  | write (data : Bytes)
  deriving DecidableEq, Repr

def streamCall (submit : UrbSubmit) : StreamCall :=
  if isIn submit.endpoint then .read (min (max submit.requestedLength.toNat 1) 65536)
  else .write submit.data

/-- How the call ends. -/
def StreamCall.complete (libusb : Libusb) (submit : UrbSubmit) : StreamCall → UrbComplete
  | .read size => hostRead libusb submit size
  | .write _ => hostWrite libusb submit

theorem stream_eq_complete (libusb : Libusb) (submit : UrbSubmit) :
    stream libusb submit = (streamCall submit).complete libusb submit := by
  unfold stream streamCall
  split <;> rfl

/-- The URB is executed in the direction of the command: the backends take their IN
branch exactly for an IN submit, which then reads what the command asked for, and an OUT
submit writes the payload that was received. -/
structure DirectionKept (cmd : UsbipCmdSubmit) (outPayload : Bytes) (urb : UrbSubmit) : Prop where
  branch : isIn urb.endpoint = true ↔ cmd.direction = 1
  reads : cmd.direction = 1 →
    streamCall urb = .read (min (max cmd.transferBufferLength.toNat 1) 65536)
  writes : cmd.direction = 0 → streamCall urb = .write outPayload

/-- An endpoint number has no direction bit. -/
theorem isIn_endpoint {ep : UInt32} (h : ep ≤ 15) :
    isIn (if ep.toNat < 256 then ep.toUInt8 else 0) = false := by
  have hall : ∀ n ≤ 15, isIn (if (UInt32.ofNat n).toNat < 256 then (UInt32.ofNat n).toUInt8 else 0)
      = false := by
    decide
  have hep := hall ep.toNat (UInt32.le_iff_toNat_le.mp h)
  rw [UInt32.ofNat_toNat] at hep
  exact hep

/-- Direction end to end.  Of the submits on the endpoints 1 to 15 that the loops accept,
exactly the OUT submits are executed in their direction. -/
theorem direction_kept_iff {input rest outPayload : Bytes} {cmd : UsbipCmdSubmit}
    (haccepted : readCommand input = some (.submit cmd outPayload, rest)) (hpos : 1 ≤ cmd.ep)
    (hep : cmd.ep ≤ 15) (hdirection : cmd.direction = 0 ∨ cmd.direction = 1)
    (deviceId : DeviceId) :
    forwardUrb deviceId cmd outPayload = some (usbipUrb deviceId cmd outPayload) ∧
      (DirectionKept cmd outPayload (usbipUrb deviceId cmd outPayload) ↔ cmd.direction = 0) := by
  obtain ⟨hmax, -⟩ := (of_readCommand haccepted).2 cmd outPayload rfl
  have hout : isIn (usbipUrb deviceId cmd outPayload).endpoint = false := isIn_endpoint hep
  refine ⟨forwardUrb_eq_some outPayload (by omega), ?_⟩
  constructor
  · intro hkept
    rcases hdirection with hzero | hone
    · exact hzero
    · have hin := hkept.branch.mpr hone
      rw [hout] at hin
      cases hin
  · intro hzero
    have hne : cmd.ep ≠ 0 := by
      intro heq
      rw [heq] at hpos
      exact absurd hpos (by decide)
    refine ⟨?_, ?_, ?_⟩
    · simp [hout, hzero]
    · intro hone
      rw [hzero] at hone
      cases hone
    · intro _
      rw [streamCall, hout]
      simp [usbipUrb, urbSubmitData, hne, hzero]

theorem sample_direction_kept :
    DirectionKept Sample.outSubmit [5, 6] (usbipUrb 1 Sample.outSubmit [5, 6]) := by
  have haccepted : readCommand (Sample.outSubmit.encode ++ [5, 6]) =
      some (.submit Sample.outSubmit [5, 6], []) := by
    decide +kernel
  exact (direction_kept_iff haccepted (by decide) (by decide) (.inl rfl) 1).2.mpr rfl

/-- The read is executed as a write. -/
theorem in_submit_written :
    ¬ ∀ (input rest outPayload : Bytes) (cmd : UsbipCmdSubmit) (deviceId : DeviceId),
      readCommand input = some (.submit cmd outPayload, rest) → 1 ≤ cmd.ep → cmd.ep ≤ 15 →
      cmd.direction = 0 ∨ cmd.direction = 1 →
      DirectionKept cmd outPayload (usbipUrb deviceId cmd outPayload) := by
  intro hclaim
  have haccepted : readCommand Sample.inSubmit.encode = some (.submit Sample.inSubmit [], []) := by
    decide +kernel
  have hkept := hclaim _ _ _ _ 1 haccepted (by decide) (by decide) (.inr rfl)
  have hin := hkept.branch.mpr rfl
  exact absurd hin (by decide)

end FarBus.Core
