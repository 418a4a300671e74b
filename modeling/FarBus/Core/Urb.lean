/-
  Core/Urb.lean --- the backends that complete a URB: the in-process emulator of
  `crates/farbus-core/src/urb.rs` and the libusb path of
  `crates/farbus-core/src/host_usb.rs`.

  libusb is not part of the repository.  What it answers during one call is an
  argument (`Libusb`): whether a context can be had, which devices it lists, and
  how the transfer ends.
-/
import FarBus.Core.Inventory

set_option autoImplicit false

namespace FarBus.Core

open FarBus.Foundation
open FarBus.Protocol

def failedUrb (seq : UInt32) : UrbComplete := { seq, status := -1, data := [] }

/-! ## The emulator -/

def hidKeyboardDescriptor : Bytes :=
  [18, 1, 0x00, 0x02, 0, 0, 0, 8, 0x6d, 0x04, 0x1c, 0xc3, 0x00, 0x01, 1, 2, 0, 1]

def serialDescriptor : Bytes :=
  [18, 1, 0x00, 0x02, 0xff, 0, 0, 8, 0x03, 0x04, 0x01, 0x60, 0x00, 0x06, 1, 2, 0, 1]

def massStorageDescriptor : Bytes :=
  [18, 1, 0x00, 0x02, 8, 6, 80, 64, 0x81, 0x07, 0x67, 0x55, 0x00, 0x01, 1, 2, 0, 1]

/-- The endpoint's direction bit: set for a transfer to the host. -/
def isIn (endpoint : UInt8) : Bool := endpoint &&& 0x80 != 0

/-- A transfer that went through. -/
def completed (submit : UrbSubmit) (data : Bytes) : UrbComplete :=
  { seq := submit.seq, status := 0, data }

def controlComplete (submit : UrbSubmit) : UrbComplete :=
  if submit.data.length ≥ 8 ∧ submit.data.getD 1 0 = 0x06 then
    completed submit <|
      if submit.deviceId = 1 then hidKeyboardDescriptor
      else if submit.deviceId = 2 then serialDescriptor
      else massStorageDescriptor
  else completed submit []

def interruptComplete (submit : UrbSubmit) : UrbComplete :=
  if isIn submit.endpoint then completed submit [0x00, 0x41, 0x00, 0x00, 0x00, 0x00, 0x00, 0x00]
  else completed submit []

def bulkComplete (submit : UrbSubmit) : UrbComplete :=
  if isIn submit.endpoint then
    -- `requested_length.clamp(1, 65_536)`
    let requested := min (max submit.requestedLength.toNat 1) 65536
    completed submit ((List.range requested).map fun i => UInt8.ofNat (i % 251))
  else completed submit []

/-- Completes a submitted URB against the in-process USB emulator. -/
def completeUrb (submit : UrbSubmit) : UrbComplete :=
  match submit.transfer with
  | .control => controlComplete submit
  | .interrupt => interruptComplete submit
  | .bulk => bulkComplete submit
  | .isochronous => { seq := submit.seq, status := -32, data := [] }

theorem length_completeUrb_le (submit : UrbSubmit) :
    (completeUrb submit).data.length ≤ 65536 := by
  unfold completeUrb
  split
  · unfold controlComplete
    split
    · dsimp only [completed]
      split
      · decide
      · split <;> decide
    · exact Nat.zero_le _
  · unfold interruptComplete
    split
    · dsimp only [completed]
      decide
    · exact Nat.zero_le _
  · unfold bulkComplete
    split
    · simp only [completed, List.length_map, List.length_range]
      exact Nat.min_le_right _ _
    · exact Nat.zero_le _
  · exact Nat.zero_le _

/-! ## The host path -/

/-- A device in libusb's list. -/
structure LibusbDevice where
  /-- vendor and product, if the descriptor can be read -/
  descriptor : Option (UInt16 × UInt16)
  portNumbers : Option (List UInt8)
  busNumber : UInt8
  opens : Bool
  deriving DecidableEq, Repr

/-- What libusb answers during one call. -/
structure Libusb where
  context : Bool
  devices : Option (List LibusbDevice)
  /-- the bytes a read transfer has for us, if it succeeds -/
  read : Option Bytes
  /-- a write transfer succeeds -/
  write : Bool
  deriving DecidableEq, Repr

def topologyBusId (bus : UInt8) (ports : List UInt8) : String :=
  toString bus ++ "-" ++ ".".intercalate (ports.map toString)

/-- A read into a buffer of `size` bytes. -/
def hostRead (libusb : Libusb) (submit : UrbSubmit) (size : Nat) : UrbComplete :=
  match libusb.read with
  | some bytes => completed submit (bytes.take size)
  | none => failedUrb submit.seq

def hostWrite (libusb : Libusb) (submit : UrbSubmit) : UrbComplete :=
  if libusb.write then completed submit [] else failedUrb submit.seq

def control (libusb : Libusb) (submit : UrbSubmit) : Option UrbComplete :=
  if submit.data.length < 8 then none
  else
    let requestType := submit.data.getD 0 0
    -- `u16::from_le_bytes([data[6], data[7]])`
    let wLength := min ((submit.data.getD 6 0).toNat + 256 * (submit.data.getD 7 0).toNat) 65536
    if isIn requestType then some (hostRead libusb submit (max wLength 1))
    else some (hostWrite libusb submit)

/-- `bulk` and `interrupt` differ in the libusb call only. -/
def stream (libusb : Libusb) (submit : UrbSubmit) : UrbComplete :=
  if isIn submit.endpoint then
    -- `requested.clamp(1, 65_536)`
    hostRead libusb submit (min (max submit.requestedLength.toNat 1) 65536)
  else hostWrite libusb submit

def bulk : Libusb → UrbSubmit → UrbComplete := stream

def interrupt : Libusb → UrbSubmit → UrbComplete := stream

/-- The candidate of libusb's list that the inventory means by `device`. -/
def matchesDevice (device : LocalDevice) (candidate : LibusbDevice) : Bool :=
  match candidate.descriptor, candidate.portNumbers with
  | some (vendorId, productId), some ports =>
      vendorId = device.info.vid && productId = device.info.pid &&
        topologyBusId candidate.busNumber ports = device.info.busId
  | _, _ => false

def tryHost (libusb : Libusb) (submit : UrbSubmit) (devices : List LocalDevice) :
    Option UrbComplete := do
  let device ← devices.find? fun device =>
    device.info.id = submit.deviceId && device.info.exported && device.backend = .host
  guard libusb.context
  let list ← libusb.devices
  let usbDev ← list.find? (matchesDevice device)
  guard usbDev.opens
  match submit.transfer with
  | .control => control libusb submit
  | .bulk => some (bulk libusb submit)
  | .interrupt => some (interrupt libusb submit)
  | .isochronous => some { seq := submit.seq, status := -32, data := [] }

/-- Completes a URB on a real USB device when possible; otherwise uses the
emulator. -/
def completeHostOrEmulated (libusb : Libusb) (submit : UrbSubmit) (devices : List LocalDevice) :
    UrbComplete :=
  match tryHost libusb submit devices with
  | some complete => complete
  | none =>
      if devices.any fun device =>
          device.info.id = submit.deviceId && device.backend = .emulated then
        completeUrb submit
      else failedUrb submit.seq

end FarBus.Core
