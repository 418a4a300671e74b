/-
  Protocol/Message.lean --- the control-plane messages of `farbus-protocol`.

  The record types, the `Message` sum and the wire constants of
  `crates/farbus-protocol/src/lib.rs`.  Machine integers are the machine
  integers of the source, `[u8; 32]` is a 32-element vector, `Vec<u8>` is a
  byte list and `DeviceId` is its `u32`.  A `String` is UTF-8 by construction on
  both sides.
-/
import FarBus.Foundation.BigEndian

set_option autoImplicit false

namespace FarBus.Protocol

open FarBus.Foundation

/-! ## Wire constants -/

def VERSION : UInt8 := 2
def MAX_PAYLOAD : Nat := 65600
/-- `b"FARB"`. -/
def MAGIC : Bytes := [0x46, 0x41, 0x52, 0x42]
def HEADER_LEN : Nat := 10
def MAX_U8_STR : Nat := 255

/-! ## Records -/

/-- `[u8; 32]`: a fingerprint, a PIN hash or a bearer token. -/
abbrev Bytes32 : Type := Vector UInt8 32

/-- `struct DeviceId(pub u32)`. -/
abbrev DeviceId : Type := UInt32

inductive UsbSpeed where
  | low
  | full
  | high
  | super
  deriving DecidableEq, Repr, Inhabited

inductive TransferType where
  | control
  | interrupt
  | bulk
  | isochronous
  deriving DecidableEq, Repr, Inhabited

inductive ErrorCode where
  | unauthorized
  | notFound
  | conflict
  | unsupported
  deriving DecidableEq, Repr, Inhabited

structure Hello where
  protocolMin : UInt8
  protocolMax : UInt8
  fingerprint : Bytes32
  hostname : String
  deriving DecidableEq, Repr

structure PairRequest where
  clientFingerprint : Bytes32
  pinHash : Bytes32
  clientName : String
  deriving DecidableEq, Repr

structure PairResponse where
  success : Bool
  serverFingerprint : Bytes32
  authToken : Bytes32
  deriving DecidableEq, Repr

structure AttachRequest where
  deviceId : DeviceId
  authToken : Bytes32
  deriving DecidableEq, Repr

structure DetachRequest where
  deviceId : DeviceId
  authToken : Bytes32
  deriving DecidableEq, Repr

structure AttachResponse where
  deviceId : DeviceId
  success : Bool
  usbipPort : UInt16
  busId : String
  deriving DecidableEq, Repr

structure UrbSubmit where
  seq : UInt32
  deviceId : DeviceId
  endpoint : UInt8
  transfer : TransferType
  requestedLength : UInt32
  data : Bytes
  deriving DecidableEq, Repr

structure UrbComplete where
  seq : UInt32
  status : Int32
  data : Bytes
  deriving DecidableEq, Repr

structure UrbUnlink where
  seq : UInt32
  deviceId : DeviceId
  deriving DecidableEq, Repr

structure UrbUnlinked where
  seq : UInt32
  status : Int32
  deriving DecidableEq, Repr

structure UsbInterfaceInfo where
  interfaceNumber : UInt8
  interfaceClass : UInt8
  interfaceSubclass : UInt8
  interfaceProtocol : UInt8
  endpoints : Bytes
  deriving DecidableEq, Repr

structure DeviceInfo where
  id : DeviceId
  busId : String
  vid : UInt16
  pid : UInt16
  usbClass : UInt8
  speed : UsbSpeed
  product : String
  exported : Bool
  interfaces : List UsbInterfaceInfo
  deriving DecidableEq, Repr

structure DeviceList where
  devices : List DeviceInfo
  deriving DecidableEq, Repr

structure DeviceListRequest where
  authToken : Bytes32
  deriving DecidableEq, Repr

/-! ## Messages -/

inductive Message where
  | hello (hello : Hello)
  | error (code : ErrorCode) (detail : String)
  | detach (deviceId : DeviceId)
  | detachRequest (req : DetachRequest)
  | deviceList (list : DeviceList)
  | deviceListRequest (req : DeviceListRequest)
  | pairRequest (pair : PairRequest)
  | pairResponse (pair : PairResponse)
  | attachRequest (attach : AttachRequest)
  | attachResponse (attach : AttachResponse)
  | urbSubmit (urb : UrbSubmit)
  | urbComplete (urb : UrbComplete)
  | urbUnlink (unlink : UrbUnlink)
  | urbUnlinked (unlinked : UrbUnlinked)
  deriving DecidableEq, Repr

namespace Message

def HELLO_TYPE : UInt8 := 1
def ERROR_TYPE : UInt8 := 2
def DETACH_TYPE : UInt8 := 3
def DEVICE_LIST_TYPE : UInt8 := 4
def PAIR_REQUEST_TYPE : UInt8 := 5
def PAIR_RESPONSE_TYPE : UInt8 := 6
def ATTACH_REQUEST_TYPE : UInt8 := 7
def ATTACH_RESPONSE_TYPE : UInt8 := 8
def URB_SUBMIT_TYPE : UInt8 := 9
def URB_COMPLETE_TYPE : UInt8 := 10
def DEVICE_LIST_REQUEST_TYPE : UInt8 := 11
def DETACH_REQUEST_TYPE : UInt8 := 12
def URB_UNLINK_TYPE : UInt8 := 13
def URB_UNLINKED_TYPE : UInt8 := 14

/-- `Message::ty`. -/
def ty : Message → UInt8
  | .hello _ => HELLO_TYPE
  | .error _ _ => ERROR_TYPE
  | .detach _ => DETACH_TYPE
  | .detachRequest _ => DETACH_REQUEST_TYPE
  | .deviceList _ => DEVICE_LIST_TYPE
  | .deviceListRequest _ => DEVICE_LIST_REQUEST_TYPE
  | .pairRequest _ => PAIR_REQUEST_TYPE
  | .pairResponse _ => PAIR_RESPONSE_TYPE
  | .attachRequest _ => ATTACH_REQUEST_TYPE
  | .attachResponse _ => ATTACH_RESPONSE_TYPE
  | .urbSubmit _ => URB_SUBMIT_TYPE
  | .urbComplete _ => URB_COMPLETE_TYPE
  | .urbUnlink _ => URB_UNLINK_TYPE
  | .urbUnlinked _ => URB_UNLINKED_TYPE

end Message

/-! ## Errors -/

/-- Why a message could not be encoded or a frame not be decoded. -/
inductive Error where
  | truncated
  | badMagic
  | unsupportedVersion (version : UInt8)
  | payloadTooLarge (len max : Nat)
  | fieldTooLong (field : String) (len max : Nat)
  | unknownType (ty : UInt8)
  | invalidPayload
  deriving DecidableEq, Repr

/-! ## Enumeration tags -/

def speedToU8 : UsbSpeed → UInt8
  | .low => 1
  | .full => 2
  | .high => 3
  | .super => 4

def u8ToSpeed (value : UInt8) : Except Error UsbSpeed :=
  if value = 1 then .ok .low
  else if value = 2 then .ok .full
  else if value = 3 then .ok .high
  else if value = 4 then .ok .super
  else .error .invalidPayload

def transferToU8 : TransferType → UInt8
  | .control => 1
  | .interrupt => 2
  | .bulk => 3
  | .isochronous => 4

def u8ToTransfer (value : UInt8) : Except Error TransferType :=
  if value = 1 then .ok .control
  else if value = 2 then .ok .interrupt
  else if value = 3 then .ok .bulk
  else if value = 4 then .ok .isochronous
  else .error .invalidPayload

def codeToU16 : ErrorCode → UInt16
  | .unauthorized => 1
  | .notFound => 2
  | .conflict => 3
  | .unsupported => 4

def u16ToCode (value : UInt16) : Except Error ErrorCode :=
  if value = 1 then .ok .unauthorized
  else if value = 2 then .ok .notFound
  else if value = 3 then .ok .conflict
  else if value = 4 then .ok .unsupported
  else .error .invalidPayload

/-- `u8::from(bool)`. -/
def boolToU8 (b : Bool) : UInt8 := if b then 1 else 0

/-- The `match cur.u8()? { 0 => false, 1 => true, _ => Err }` of the decoder. -/
def u8ToBool (value : UInt8) : Except Error Bool :=
  if value = 0 then .ok false
  else if value = 1 then .ok true
  else .error .invalidPayload

theorem u8ToSpeed_eq_ok_iff (value : UInt8) (speed : UsbSpeed) :
    u8ToSpeed value = .ok speed ↔ value = speedToU8 speed := by
  cases speed <;> simp only [u8ToSpeed, speedToU8] <;> split_ifs <;> simp_all

theorem u8ToTransfer_eq_ok_iff (value : UInt8) (transfer : TransferType) :
    u8ToTransfer value = .ok transfer ↔ value = transferToU8 transfer := by
  cases transfer <;> simp only [u8ToTransfer, transferToU8] <;> split_ifs <;> simp_all

theorem u16ToCode_eq_ok_iff (value : UInt16) (code : ErrorCode) :
    u16ToCode value = .ok code ↔ value = codeToU16 code := by
  cases code <;> simp only [u16ToCode, codeToU16] <;> split_ifs <;> simp_all

theorem u8ToBool_eq_ok_iff (value : UInt8) (b : Bool) :
    u8ToBool value = .ok b ↔ value = boolToU8 b := by
  cases b <;> simp only [u8ToBool, boolToU8] <;> split_ifs <;> simp_all

end FarBus.Protocol
