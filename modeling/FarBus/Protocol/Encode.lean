/-
  Protocol/Encode.lean --- `encode`, and that it writes the wire format.

  `encode` of `crates/farbus-protocol/src/lib.rs` fills a payload buffer field
  by field, each length through a checked narrowing conversion, and puts the
  frame header in front.  The buffer is threaded explicitly; the `?` of the
  source is the bind of `Except`.

  `encode_eq_ok_iff` is the whole specification: `encode` succeeds exactly on the
  messages within the limits of `Protocol/Format.lean` and returns their frame.
-/
import FarBus.Foundation.Codec
import FarBus.Protocol.Format

set_option autoImplicit false

namespace FarBus.Protocol

open FarBus.Foundation

/-! ## Checked narrowing -/

/-- `T::try_from(usize)` for the unsigned type of `bits` bits, with the error the
caller maps a failure to. -/
def tryFrom {α : Type} (ofNat : Nat → α) (bits n : Nat) (err : Error) : Except Error α :=
  if n < 2 ^ bits then .ok (ofNat n) else .error err

/-- `u8::try_from`. -/
def u8TryFrom : Nat → Error → Except Error UInt8 := tryFrom UInt8.ofNat 8

/-- `u16::try_from`. -/
def u16TryFrom : Nat → Error → Except Error UInt16 := tryFrom UInt16.ofNat 16

/-- `u32::try_from`. -/
def u32TryFrom : Nat → Error → Except Error UInt32 := tryFrom UInt32.ofNat 32

/-! ## The encoder -/

def putU8Str (buf : Bytes) (field value : String) : Except Error Bytes := do
  let len ← u8TryFrom value.utf8ByteSize (.fieldTooLong field value.utf8ByteSize MAX_U8_STR)
  return buf ++ [len] ++ strBytes value

def putU16Str (buf : Bytes) (field value : String) : Except Error Bytes := do
  let len ← u16TryFrom value.utf8ByteSize (.fieldTooLong field value.utf8ByteSize 65535)
  return buf ++ u16Be len ++ strBytes value

/-- The body of `for iface in &device.interfaces`. -/
def putInterface (buf : Bytes) (iface : UsbInterfaceInfo) : Except Error Bytes := do
  let buf := buf ++ [iface.interfaceNumber, iface.interfaceClass, iface.interfaceSubclass,
    iface.interfaceProtocol]
  let epCount ← u8TryFrom iface.endpoints.length
    (.fieldTooLong "interface.endpoints" iface.endpoints.length 255)
  return buf ++ [epCount] ++ iface.endpoints

/-- The body of `for device in &list.devices`. -/
def putDevice (buf : Bytes) (device : DeviceInfo) : Except Error Bytes := do
  let buf := buf ++ u32Be device.id
  let buf ← putU8Str buf "bus_id" device.busId
  let buf := buf ++ u16Be device.vid ++ u16Be device.pid
  let buf := buf ++ [device.usbClass] ++ [speedToU8 device.speed]
  let buf ← putU8Str buf "product" device.product
  let buf := buf ++ [boolToU8 device.exported]
  let ifaceCount ← u8TryFrom device.interfaces.length
    (.fieldTooLong "device.interfaces" device.interfaces.length 255)
  let buf := buf ++ [ifaceCount]
  device.interfaces.foldlM putInterface buf

/-- A data vector behind its length in four bytes. -/
def putData (buf data : Bytes) : Except Error Bytes := do
  let dataLen ← u32TryFrom data.length (.fieldTooLong "urb.data" data.length MAX_PAYLOAD)
  return buf ++ u32Be dataLen ++ data

/-- The `match msg` of `encode`: the payload buffer. -/
def encodePayload : Message → Except Error Bytes
  | .hello hello =>
      putU8Str ([hello.protocolMin] ++ [hello.protocolMax] ++ hello.fingerprint.toList)
        "hostname" hello.hostname
  | .error code detail => putU16Str (u16Be (codeToU16 code)) "detail" detail
  | .detach deviceId => .ok (u32Be deviceId)
  | .detachRequest req => .ok (u32Be req.deviceId ++ req.authToken.toList)
  | .deviceListRequest req => .ok req.authToken.toList
  | .deviceList list => do
      let count ← u16TryFrom list.devices.length
        (.fieldTooLong "devices" list.devices.length 65535)
      list.devices.foldlM putDevice (u16Be count)
  | .pairRequest pair =>
      putU8Str (pair.clientFingerprint.toList ++ pair.pinHash.toList) "client_name"
        pair.clientName
  | .pairResponse pair =>
      .ok ([boolToU8 pair.success] ++ pair.serverFingerprint.toList ++ pair.authToken.toList)
  | .attachRequest attach => .ok (u32Be attach.deviceId ++ attach.authToken.toList)
  | .attachResponse attach =>
      putU8Str (u32Be attach.deviceId ++ [boolToU8 attach.success] ++ u16Be attach.usbipPort)
        "bus_id" attach.busId
  | .urbSubmit urb =>
      putData (u32Be urb.seq ++ u32Be urb.deviceId ++ [urb.endpoint] ++
        [transferToU8 urb.transfer] ++ u32Be urb.requestedLength) urb.data
  | .urbComplete urb => putData (u32Be urb.seq ++ i32Be urb.status) urb.data
  | .urbUnlink unlink => .ok (u32Be unlink.seq ++ u32Be unlink.deviceId)
  | .urbUnlinked unlinked => .ok (u32Be unlinked.seq ++ i32Be unlinked.status)

/-- The end of `encode`: the size check and the header in front of the payload. -/
def encodeFrame (ty : UInt8) (payload : Bytes) : Except Error Bytes :=
  if payload.length > MAX_PAYLOAD then
    .error (.payloadTooLarge payload.length MAX_PAYLOAD)
  else do
    let len ← u32TryFrom payload.length (.payloadTooLarge payload.length MAX_PAYLOAD)
    return MAGIC ++ [VERSION] ++ [ty] ++ u32Be len ++ payload

/-- Encodes one bounded control-plane message. -/
def encode (msg : Message) : Except Error Bytes := do
  let payload ← encodePayload msg
  encodeFrame msg.ty payload

/-! ## Field writers -/

theorem tryFrom_eq_ok_iff {α : Type} (ofNat : Nat → α) (bits n : Nat) (err : Error) (x : α) :
    tryFrom ofNat bits n err = .ok x ↔ n < 2 ^ bits ∧ x = ofNat n := by
  unfold tryFrom
  by_cases h : n < 2 ^ bits
  · rw [if_pos h]
    exact ⟨fun hx => ⟨h, (Except.ok.inj hx).symm⟩, fun hx => by rw [hx.2]⟩
  · rw [if_neg h]
    exact ⟨fun hx => (by cases hx), fun hx => absurd hx.1 h⟩

theorem u8TryFrom_eq_ok_iff (n : Nat) (err : Error) (x : UInt8) :
    u8TryFrom n err = .ok x ↔ n ≤ 255 ∧ x = UInt8.ofNat n := by
  have hle : n < 2 ^ 8 ↔ n ≤ 255 := Nat.lt_iff_le_pred (by decide)
  rw [u8TryFrom, tryFrom_eq_ok_iff, hle]

theorem u16TryFrom_eq_ok_iff (n : Nat) (err : Error) (x : UInt16) :
    u16TryFrom n err = .ok x ↔ n ≤ 65535 ∧ x = UInt16.ofNat n := by
  have hle : n < 2 ^ 16 ↔ n ≤ 65535 := Nat.lt_iff_le_pred (by decide)
  rw [u16TryFrom, tryFrom_eq_ok_iff, hle]

theorem u32TryFrom_eq_ok_iff (n : Nat) (err : Error) (x : UInt32) :
    u32TryFrom n err = .ok x ↔ n < 2 ^ 32 ∧ x = UInt32.ofNat n :=
  tryFrom_eq_ok_iff UInt32.ofNat 32 n err x

theorem putU8Str_writes (field : String) :
    Writes (fun buf value => putU8Str buf field value) (fun s => s.utf8ByteSize ≤ 255)
      u8StrBytes := by
  intro buf value buf'
  simp only [putU8Str, bind_eq_ok_iff, u8TryFrom_eq_ok_iff, pure, Except.pure,
    Except.ok.injEq]
  constructor
  · rintro ⟨_, ⟨hlen, rfl⟩, rfl⟩
    exact ⟨hlen, by simp [u8StrBytes]⟩
  · rintro ⟨hlen, rfl⟩
    exact ⟨_, ⟨hlen, rfl⟩, by simp [u8StrBytes]⟩

theorem putU16Str_writes (field : String) :
    Writes (fun buf value => putU16Str buf field value) (fun s => s.utf8ByteSize ≤ 65535)
      u16StrBytes := by
  intro buf value buf'
  simp only [putU16Str, bind_eq_ok_iff, u16TryFrom_eq_ok_iff, pure, Except.pure,
    Except.ok.injEq]
  constructor
  · rintro ⟨_, ⟨hlen, rfl⟩, rfl⟩
    exact ⟨hlen, by simp [u16StrBytes]⟩
  · rintro ⟨hlen, rfl⟩
    exact ⟨_, ⟨hlen, rfl⟩, by simp [u16StrBytes]⟩

theorem putData_writes :
    Writes putData (fun data => data.length < 2 ^ 32)
      (fun data => u32Be (UInt32.ofNat data.length) ++ data) := by
  intro buf data buf'
  simp only [putData, bind_eq_ok_iff, u32TryFrom_eq_ok_iff, pure, Except.pure,
    Except.ok.injEq]
  constructor
  · rintro ⟨_, ⟨hlen, rfl⟩, rfl⟩
    exact ⟨hlen, by simp⟩
  · rintro ⟨hlen, rfl⟩
    exact ⟨_, ⟨hlen, rfl⟩, by simp⟩

theorem putInterface_writes : Writes putInterface InterfaceFits interfaceBytes := by
  intro buf iface buf'
  simp only [putInterface, bind_eq_ok_iff, u8TryFrom_eq_ok_iff, pure, Except.pure,
    Except.ok.injEq]
  constructor
  · rintro ⟨_, ⟨hlen, rfl⟩, rfl⟩
    exact ⟨hlen, by simp [interfaceBytes]⟩
  · rintro ⟨hlen, rfl⟩
    exact ⟨_, ⟨hlen, rfl⟩, by simp [interfaceBytes]⟩

theorem putDevice_writes : Writes putDevice DeviceFits deviceBytes := by
  intro buf device buf'
  have hstr := fun field buf value buf' => putU8Str_writes field buf value buf'
  have hifaces := putInterface_writes.foldlM
  simp only [Writes] at hstr hifaces
  simp only [putDevice, bind_eq_ok_iff, hstr, hifaces, u8TryFrom_eq_ok_iff]
  constructor
  · rintro ⟨_, ⟨hbus, rfl⟩, _, ⟨hproduct, rfl⟩, _, ⟨hcount, rfl⟩, hall, rfl⟩
    exact ⟨⟨hbus, hproduct, hcount, hall⟩, by simp [deviceBytes]⟩
  · rintro ⟨hfits, rfl⟩
    exact ⟨_, ⟨hfits.busId, rfl⟩, _, ⟨hfits.product, rfl⟩, _, ⟨hfits.interfaces, rfl⟩,
      hfits.interface, by simp [deviceBytes]⟩

/-! ## The payload and the frame -/

theorem encodePayload_eq_ok_iff (msg : Message) (payload : Bytes) :
    encodePayload msg = .ok payload ↔ FieldsFit msg ∧ payload = payloadBytes msg := by
  have hstr := fun field buf value buf' => putU8Str_writes field buf value buf'
  have hdetail := fun field buf value buf' => putU16Str_writes field buf value buf'
  have hdata := putData_writes
  have hdevices := putDevice_writes.foldlM
  simp only [Writes] at hstr hdetail hdata hdevices
  cases msg with
  | hello hello => simp only [encodePayload, hstr, FieldsFit, payloadBytes]; simp
  | error code detail => simp only [encodePayload, hdetail, FieldsFit, payloadBytes]
  | deviceList list =>
      simp only [encodePayload, bind_eq_ok_iff, u16TryFrom_eq_ok_iff, hdevices, FieldsFit,
        payloadBytes]
      constructor
      · rintro ⟨_, ⟨hcount, rfl⟩, hall, rfl⟩
        exact ⟨⟨hcount, hall⟩, rfl⟩
      · rintro ⟨⟨hcount, hall⟩, rfl⟩
        exact ⟨_, ⟨hcount, rfl⟩, hall, rfl⟩
  | pairRequest pair => simp only [encodePayload, hstr, FieldsFit, payloadBytes]
  | attachResponse attach => simp only [encodePayload, hstr, FieldsFit, payloadBytes]
  | urbSubmit urb => simp only [encodePayload, hdata, FieldsFit, payloadBytes]; simp
  | urbComplete urb => simp only [encodePayload, hdata, FieldsFit, payloadBytes]; simp
  | detach | detachRequest | deviceListRequest | pairResponse | attachRequest
  | urbUnlink | urbUnlinked =>
      simp [encodePayload, FieldsFit, payloadBytes, eq_comm]

theorem encodeFrame_eq_ok_iff (ty : UInt8) (payload bytes : Bytes) :
    encodeFrame ty payload = .ok bytes ↔ payload.length ≤ MAX_PAYLOAD ∧
      bytes = MAGIC ++ [VERSION, ty] ++ u32Be (UInt32.ofNat payload.length) ++ payload := by
  have hmax : MAX_PAYLOAD < 2 ^ 32 := by decide
  simp only [encodeFrame, ite_error_eq_ok_iff, bind_eq_ok_iff, u32TryFrom_eq_ok_iff, pure,
    Except.pure, Except.ok.injEq]
  constructor
  · rintro ⟨hle, _, ⟨_, rfl⟩, rfl⟩
    exact ⟨by omega, by simp⟩
  · rintro ⟨hle, rfl⟩
    exact ⟨by omega, _, ⟨by omega, rfl⟩, by simp⟩

/-- `encode` succeeds exactly on the messages within the limits, with their frame. -/
theorem encode_eq_ok_iff (msg : Message) (bytes : Bytes) :
    encode msg = .ok bytes ↔ Encodable msg ∧ bytes = frameBytes msg := by
  simp only [encode, bind_eq_ok_iff, encodePayload_eq_ok_iff, encodeFrame_eq_ok_iff]
  constructor
  · rintro ⟨_, ⟨hfields, rfl⟩, hle, hbytes⟩
    exact ⟨⟨hfields, hle⟩, hbytes⟩
  · rintro ⟨henc, hbytes⟩
    exact ⟨_, ⟨henc.fields, rfl⟩, henc.payload, hbytes⟩

/-- Every failure of `encode` is a limit of the wire that is exceeded. -/
theorem limitExceeded_of_encode_error {msg : Message} {err : Error}
    (h : encode msg = .error err) : LimitExceeded msg := by
  apply limitExceeded_of_not_encodable
  intro henc
  have hok := (encode_eq_ok_iff msg (frameBytes msg)).mpr ⟨henc, rfl⟩
  rw [h] at hok
  cases hok

end FarBus.Protocol
