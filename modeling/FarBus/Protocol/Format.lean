/-
  Protocol/Format.lean --- what the control-plane wire format is.

  The abstract side of the codec: for every message the payload bytes it stands
  for, whether or not they fit the limits of the wire, and the limits.  Neither
  the encoder nor the decoder is mentioned.  `Protocol/Encode.lean` proves that
  `encode` writes exactly this format and fails exactly outside the limits,
  `Protocol/Decode.lean` that `decode` reads exactly this format.
-/
import FarBus.Protocol.Message

set_option autoImplicit false

namespace FarBus.Protocol

open FarBus.Foundation

/-! ## Scalars and strings -/

/-- `u16::to_be_bytes`. -/
def u16Be (x : UInt16) : Bytes := toBe 2 x.toNat

/-- `u32::to_be_bytes`. -/
def u32Be (x : UInt32) : Bytes := toBe 4 x.toNat

/-- `i32::to_be_bytes`: the two's complement bits. -/
def i32Be (x : Int32) : Bytes := u32Be x.toUInt32

@[simp] theorem length_u16Be (x : UInt16) : (u16Be x).length = 2 := length_toBe 2 _
@[simp] theorem length_u32Be (x : UInt32) : (u32Be x).length = 4 := length_toBe 4 _
@[simp] theorem length_i32Be (x : Int32) : (i32Be x).length = 4 := length_u32Be _

/-- `str::as_bytes`. -/
def strBytes (s : String) : Bytes := s.toUTF8.data.toList

@[simp] theorem length_strBytes (s : String) : (strBytes s).length = s.utf8ByteSize := rfl

theorem strBytes_ofList (chars : List Char) :
    strBytes (String.ofList chars) = chars.flatMap String.utf8EncodeChar := by
  simp [strBytes, String.toUTF8, List.utf8Encode]

theorem strBytes_append (s t : String) : strBytes (s ++ t) = strBytes s ++ strBytes t := by
  rw [← String.ofList_toList (s := s), ← String.ofList_toList (s := t), ← String.ofList_append,
    strBytes_ofList, strBytes_ofList, strBytes_ofList, List.flatMap_append]

/-- A string behind its length in one byte. -/
def u8StrBytes (s : String) : Bytes := UInt8.ofNat s.utf8ByteSize :: strBytes s

/-- A string behind its length in two bytes. -/
def u16StrBytes (s : String) : Bytes := u16Be (UInt16.ofNat s.utf8ByteSize) ++ strBytes s

/-! ## Device lists -/

def interfaceBytes (iface : UsbInterfaceInfo) : Bytes :=
  [iface.interfaceNumber, iface.interfaceClass, iface.interfaceSubclass,
    iface.interfaceProtocol, UInt8.ofNat iface.endpoints.length] ++ iface.endpoints

def deviceBytes (device : DeviceInfo) : Bytes :=
  u32Be device.id ++ u8StrBytes device.busId ++ u16Be device.vid ++ u16Be device.pid ++
    [device.usbClass, speedToU8 device.speed] ++ u8StrBytes device.product ++
    [boolToU8 device.exported, UInt8.ofNat device.interfaces.length] ++
    device.interfaces.flatMap interfaceBytes

/-- The endpoint count of an interface fits its byte. -/
def InterfaceFits (iface : UsbInterfaceInfo) : Prop := iface.endpoints.length ≤ 255

/-- Both strings and all counts of a device record fit their bytes. -/
structure DeviceFits (device : DeviceInfo) : Prop where
  busId : device.busId.utf8ByteSize ≤ 255
  product : device.product.utf8ByteSize ≤ 255
  interfaces : device.interfaces.length ≤ 255
  interface : ∀ iface ∈ device.interfaces, InterfaceFits iface

/-! ## Messages -/

/-- The payload of a message. -/
def payloadBytes : Message → Bytes
  | .hello h => [h.protocolMin, h.protocolMax] ++ h.fingerprint.toList ++ u8StrBytes h.hostname
  | .error code detail => u16Be (codeToU16 code) ++ u16StrBytes detail
  | .detach deviceId => u32Be deviceId
  | .detachRequest req => u32Be req.deviceId ++ req.authToken.toList
  | .deviceListRequest req => req.authToken.toList
  | .deviceList list =>
      u16Be (UInt16.ofNat list.devices.length) ++ list.devices.flatMap deviceBytes
  | .pairRequest pair =>
      pair.clientFingerprint.toList ++ pair.pinHash.toList ++ u8StrBytes pair.clientName
  | .pairResponse pair =>
      [boolToU8 pair.success] ++ pair.serverFingerprint.toList ++ pair.authToken.toList
  | .attachRequest attach => u32Be attach.deviceId ++ attach.authToken.toList
  | .attachResponse attach =>
      u32Be attach.deviceId ++ [boolToU8 attach.success] ++ u16Be attach.usbipPort ++
        u8StrBytes attach.busId
  | .urbSubmit urb =>
      u32Be urb.seq ++ u32Be urb.deviceId ++ [urb.endpoint, transferToU8 urb.transfer] ++
        u32Be urb.requestedLength ++ u32Be (UInt32.ofNat urb.data.length) ++ urb.data
  | .urbComplete urb =>
      u32Be urb.seq ++ i32Be urb.status ++ u32Be (UInt32.ofNat urb.data.length) ++ urb.data
  | .urbUnlink unlink => u32Be unlink.seq ++ u32Be unlink.deviceId
  | .urbUnlinked unlinked => u32Be unlinked.seq ++ i32Be unlinked.status

/-- Every length-prefixed field of a message fits its prefix. -/
def FieldsFit : Message → Prop
  | .hello h => h.hostname.utf8ByteSize ≤ 255
  | .error _ detail => detail.utf8ByteSize ≤ 65535
  | .deviceList list =>
      list.devices.length ≤ 65535 ∧ ∀ device ∈ list.devices, DeviceFits device
  | .pairRequest pair => pair.clientName.utf8ByteSize ≤ 255
  | .attachResponse attach => attach.busId.utf8ByteSize ≤ 255
  | .urbSubmit urb => urb.data.length < 2 ^ 32
  | .urbComplete urb => urb.data.length < 2 ^ 32
  | _ => True

/-- A message is within the limits of the wire. -/
structure Encodable (msg : Message) : Prop where
  fields : FieldsFit msg
  payload : (payloadBytes msg).length ≤ MAX_PAYLOAD

theorem encodable_urbSubmit_iff (urb : UrbSubmit) :
    Encodable (.urbSubmit urb) ↔ 18 + urb.data.length ≤ MAX_PAYLOAD := by
  have hpayload : (payloadBytes (.urbSubmit urb)).length = 18 + urb.data.length := by
    simp only [payloadBytes, List.length_append, length_u32Be, List.length_cons, List.length_nil]
  have hmax : MAX_PAYLOAD = 65600 := rfl
  rw [← hpayload]
  refine ⟨Encodable.payload, fun hle => ⟨?_, hle⟩⟩
  simp only [FieldsFit]
  omega

theorem encodable_urbComplete_iff (complete : UrbComplete) :
    Encodable (.urbComplete complete) ↔ 12 + complete.data.length ≤ MAX_PAYLOAD := by
  have hpayload : (payloadBytes (.urbComplete complete)).length = 12 + complete.data.length := by
    simp only [payloadBytes, List.length_append, length_u32Be, length_i32Be]
  have hmax : MAX_PAYLOAD = 65600 := rfl
  rw [← hpayload]
  refine ⟨Encodable.payload, fun hle => ⟨?_, hle⟩⟩
  simp only [FieldsFit]
  omega

theorem encodable_urbUnlinked (unlinked : UrbUnlinked) : Encodable (.urbUnlinked unlinked) := by
  have hmax : MAX_PAYLOAD = 65600 := rfl
  refine ⟨trivial, ?_⟩
  simp only [payloadBytes, List.length_append, length_u32Be, length_i32Be]
  omega

/-- The frame of a message: magic, version, type, payload length, payload. -/
def frameBytes (msg : Message) : Bytes :=
  MAGIC ++ [VERSION, msg.ty] ++ u32Be (UInt32.ofNat (payloadBytes msg).length) ++
    payloadBytes msg

/-! ## The limits, as reasons for refusal -/

/-- The strings of a message that the wire prefixes with a one-byte length. -/
def u8Strings : Message → List String
  | .hello h => [h.hostname]
  | .deviceList list => list.devices.flatMap fun device => [device.busId, device.product]
  | .pairRequest pair => [pair.clientName]
  | .attachResponse attach => [attach.busId]
  | _ => []

/-- One of the limits of the wire format is exceeded: a string behind a one-byte
length, an error detail, a count of devices, interfaces or endpoints, or the
payload as a whole. -/
inductive LimitExceeded : Message → Prop where
  | u8String {msg : Message} (s : String) (mem : s ∈ u8Strings msg)
      (long : 255 < s.utf8ByteSize) : LimitExceeded msg
  | detail (code : ErrorCode) (detail : String) (long : 65535 < detail.utf8ByteSize) :
      LimitExceeded (.error code detail)
  | deviceCount (list : DeviceList) (many : 65535 < list.devices.length) :
      LimitExceeded (.deviceList list)
  | interfaceCount (list : DeviceList) (device : DeviceInfo) (mem : device ∈ list.devices)
      (many : 255 < device.interfaces.length) : LimitExceeded (.deviceList list)
  | endpointCount (list : DeviceList) (device : DeviceInfo) (iface : UsbInterfaceInfo)
      (mem : device ∈ list.devices) (memIface : iface ∈ device.interfaces)
      (many : 255 < iface.endpoints.length) : LimitExceeded (.deviceList list)
  | payload {msg : Message} (large : MAX_PAYLOAD < (payloadBytes msg).length) :
      LimitExceeded msg

/-- A device record that does not fit exceeds one of the listed limits. -/
theorem limitExceeded_of_not_deviceFits {list : DeviceList} {device : DeviceInfo}
    (hmem : device ∈ list.devices) (h : ¬ DeviceFits device) :
    LimitExceeded (.deviceList list) := by
  by_contra hno
  have hstring : ∀ s ∈ [device.busId, device.product], s.utf8ByteSize ≤ 255 := by
    intro s hs
    by_contra hlong
    exact hno (.u8String s (List.mem_flatMap.mpr ⟨device, hmem, hs⟩) (by omega))
  refine h ⟨hstring _ (by simp), hstring _ (by simp), ?_, ?_⟩
  · by_contra hmany
    exact hno (.interfaceCount list device hmem (by omega))
  · intro iface hiface
    by_contra hmany
    exact hno (.endpointCount list device iface hmem hiface (by
      unfold InterfaceFits at hmany; omega))

/-- Outside the limits of the wire, one of the listed limits is exceeded. -/
theorem limitExceeded_of_not_encodable {msg : Message} (h : ¬ Encodable msg) :
    LimitExceeded msg := by
  by_contra hno
  have hpayload : (payloadBytes msg).length ≤ MAX_PAYLOAD := by
    by_contra hlarge
    exact hno (.payload (by omega))
  refine h ⟨?_, hpayload⟩
  have hstring : ∀ s ∈ u8Strings msg, s.utf8ByteSize ≤ 255 := by
    intro s hs
    by_contra hlong
    exact hno (.u8String s hs (by omega))
  -- data longer than its four-byte prefix can say is already longer than a payload
  have hdata : ∀ data : Bytes, data.length ≤ (payloadBytes msg).length →
      data.length < 2 ^ 32 := by
    intro data hle
    have hmax : MAX_PAYLOAD < 2 ^ 32 := by decide
    omega
  cases msg with
  | hello h => exact hstring _ (by simp [u8Strings])
  | error code detail =>
      show detail.utf8ByteSize ≤ 65535
      by_contra hlong
      exact hno (.detail code detail (by omega))
  | deviceList list =>
      refine ⟨?_, ?_⟩
      · by_contra hmany
        exact hno (.deviceCount list (by omega))
      · intro device hmem
        by_contra hfits
        exact hno (limitExceeded_of_not_deviceFits hmem hfits)
  | pairRequest pair => exact hstring _ (by simp [u8Strings])
  | attachResponse attach => exact hstring _ (by simp [u8Strings])
  | urbSubmit urb => exact hdata urb.data (by simp [payloadBytes]; omega)
  | urbComplete urb => exact hdata urb.data (by simp [payloadBytes]; omega)
  | detach | detachRequest | deviceListRequest | pairResponse | attachRequest
  | urbUnlink | urbUnlinked => trivial

end FarBus.Protocol
