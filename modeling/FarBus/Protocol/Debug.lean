/-
  Protocol/Debug.lean --- the text that `format!("{other:?}")` makes of a message, by
  the `#[derive(Debug)]` of `crates/farbus-protocol/src/lib.rs`, and how long it gets.

  Records and variants are written with the names of the source, a list and an array as
  their elements between brackets, and a string between quotes with its characters
  escaped.  Which characters outside ASCII are escaped is a matter of the Unicode tables
  of the toolchain, so it is a parameter here: `plain` says which are not.
-/
import FarBus.Foundation.Text
import FarBus.Protocol.Format

set_option autoImplicit false

namespace FarBus.Protocol

open FarBus.Foundation

/-! ## `std::fmt::Debug` -/

/-- The character is printable and does not extend the one before it. -/
def isPlain (plain : Char → Bool) (c : Char) : Bool :=
  if c.toNat < 0x80 then 0x20 ≤ c.toNat && c.toNat < 0x7f else plain c

/-- A character of a string, by `char::escape_debug_ext`. -/
def escapeDebug (plain : Char → Bool) (c : Char) : String :=
  if c = '\x00' then "\\0"
  else if c = '\t' then "\\t"
  else if c = '\r' then "\\r"
  else if c = '\n' then "\\n"
  else if c = '\\' then "\\\\"
  else if c = '"' then "\\\""
  else if isPlain plain c then String.singleton c
  else "\\u\x7b" ++ String.ofList (Nat.toDigits 16 c.toNat) ++ "\x7d"

def debugStr (plain : Char → Bool) (s : String) : String :=
  "\"" ++ String.join (s.toList.map (escapeDebug plain)) ++ "\""

/-- A slice, a `Vec` or an array. -/
def debugList (items : List String) : String := "[" ++ ", ".intercalate items ++ "]"

def debugBytes (bytes : Bytes) : String := debugList (bytes.map toString)

/-- A record with fields, by name. -/
def debugStruct (name : String) (fields : List (String × String)) : String :=
  name ++ " \x7b " ++ ", ".intercalate (fields.map fun field => field.1 ++ ": " ++ field.2) ++
    " \x7d"

/-- A record or variant around one value. -/
def debugTuple (name value : String) : String := name ++ "(" ++ value ++ ")"

/-! ## The derived instances -/

def debugDeviceId (id : DeviceId) : String := debugTuple "DeviceId" (toString id)

def debugSpeed : UsbSpeed → String
  | .low => "Low"
  | .full => "Full"
  | .high => "High"
  | .super => "Super"

def debugTransfer : TransferType → String
  | .control => "Control"
  | .interrupt => "Interrupt"
  | .bulk => "Bulk"
  | .isochronous => "Isochronous"

def debugCode : ErrorCode → String
  | .unauthorized => "Unauthorized"
  | .notFound => "NotFound"
  | .conflict => "Conflict"
  | .unsupported => "Unsupported"

def debugInterface (iface : UsbInterfaceInfo) : String :=
  debugStruct "UsbInterfaceInfo"
    [("interface_number", toString iface.interfaceNumber),
      ("interface_class", toString iface.interfaceClass),
      ("interface_subclass", toString iface.interfaceSubclass),
      ("interface_protocol", toString iface.interfaceProtocol),
      ("endpoints", debugBytes iface.endpoints)]

def debugDevice (plain : Char → Bool) (device : DeviceInfo) : String :=
  debugStruct "DeviceInfo"
    [("id", debugDeviceId device.id), ("bus_id", debugStr plain device.busId),
      ("vid", toString device.vid), ("pid", toString device.pid),
      ("usb_class", toString device.usbClass), ("speed", debugSpeed device.speed),
      ("product", debugStr plain device.product), ("exported", toString device.exported),
      ("interfaces", debugList (device.interfaces.map debugInterface))]

/-- `{:?}` of a message. -/
def debugMessage (plain : Char → Bool) : Message → String
  | .hello hello =>
      debugTuple "Hello" <| debugStruct "Hello"
        [("protocol_min", toString hello.protocolMin), ("protocol_max", toString hello.protocolMax),
          ("fingerprint", debugBytes hello.fingerprint.toList),
          ("hostname", debugStr plain hello.hostname)]
  | .error code detail =>
      debugStruct "Error" [("code", debugCode code), ("detail", debugStr plain detail)]
  | .detach deviceId => debugStruct "Detach" [("device_id", debugDeviceId deviceId)]
  | .detachRequest req =>
      debugTuple "DetachRequest" <| debugStruct "DetachRequest"
        [("device_id", debugDeviceId req.deviceId), ("auth_token", debugBytes req.authToken.toList)]
  | .deviceList list =>
      debugTuple "DeviceList" <| debugStruct "DeviceList"
        [("devices", debugList (list.devices.map (debugDevice plain)))]
  | .deviceListRequest req =>
      debugTuple "DeviceListRequest" <| debugStruct "DeviceListRequest"
        [("auth_token", debugBytes req.authToken.toList)]
  | .pairRequest pair =>
      debugTuple "PairRequest" <| debugStruct "PairRequest"
        [("client_fingerprint", debugBytes pair.clientFingerprint.toList),
          ("pin_hash", debugBytes pair.pinHash.toList),
          ("client_name", debugStr plain pair.clientName)]
  | .pairResponse pair =>
      debugTuple "PairResponse" <| debugStruct "PairResponse"
        [("success", toString pair.success),
          ("server_fingerprint", debugBytes pair.serverFingerprint.toList),
          ("auth_token", debugBytes pair.authToken.toList)]
  | .attachRequest attach =>
      debugTuple "AttachRequest" <| debugStruct "AttachRequest"
        [("device_id", debugDeviceId attach.deviceId),
          ("auth_token", debugBytes attach.authToken.toList)]
  | .attachResponse attach =>
      debugTuple "AttachResponse" <| debugStruct "AttachResponse"
        [("device_id", debugDeviceId attach.deviceId), ("success", toString attach.success),
          ("usbip_port", toString attach.usbipPort), ("bus_id", debugStr plain attach.busId)]
  | .urbSubmit urb =>
      debugTuple "UrbSubmit" <| debugStruct "UrbSubmit"
        [("seq", toString urb.seq), ("device_id", debugDeviceId urb.deviceId),
          ("endpoint", toString urb.endpoint), ("transfer", debugTransfer urb.transfer),
          ("requested_length", toString urb.requestedLength), ("data", debugBytes urb.data)]
  | .urbComplete urb =>
      debugTuple "UrbComplete" <| debugStruct "UrbComplete"
        [("seq", toString urb.seq), ("status", toString urb.status), ("data", debugBytes urb.data)]
  | .urbUnlink unlink =>
      debugTuple "UrbUnlink" <| debugStruct "UrbUnlink"
        [("seq", toString unlink.seq), ("device_id", debugDeviceId unlink.deviceId)]
  | .urbUnlinked unlinked =>
      debugTuple "UrbUnlinked" <| debugStruct "UrbUnlinked"
        [("seq", toString unlinked.seq), ("status", toString unlinked.status)]

/-! ## How long the texts are -/

theorem utf8ByteSize_commas (items : List String) :
    (", ".intercalate items).utf8ByteSize =
      (items.map String.utf8ByteSize).sum + 2 * (items.length - 1) := by
  have hcomma : ", ".utf8ByteSize = 2 := by decide
  rw [utf8ByteSize_intercalate, hcomma, Nat.mul_comm]

/-- The size of bytes in decimal. -/
def decimalSize (bytes : Bytes) : Nat := (bytes.map fun byte => (toString byte).utf8ByteSize).sum

/-- The size of a text whose characters are escaped. -/
def escapedSize (plain : Char → Bool) (s : String) : Nat :=
  (s.toList.map fun c => (escapeDebug plain c).utf8ByteSize).sum

theorem utf8ByteSize_debugBytes (bytes : Bytes) :
    (debugBytes bytes).utf8ByteSize = 2 + decimalSize bytes + 2 * (bytes.length - 1) := by
  have hopen : "[".utf8ByteSize = 1 := by decide
  have hclose : "]".utf8ByteSize = 1 := by decide
  have hsum : ((bytes.map toString).map String.utf8ByteSize).sum = decimalSize bytes := by
    rw [List.map_map]
    rfl
  rw [debugBytes, debugList, String.utf8ByteSize_append, String.utf8ByteSize_append,
    utf8ByteSize_commas, hsum, List.length_map, hopen, hclose]
  omega

theorem utf8ByteSize_debugStr (plain : Char → Bool) (s : String) :
    (debugStr plain s).utf8ByteSize = 2 + escapedSize plain s := by
  have hquote : "\"".utf8ByteSize = 1 := by decide
  have hsum : ((s.toList.map (escapeDebug plain)).map String.utf8ByteSize).sum =
      escapedSize plain s := by
    rw [List.map_map]
    rfl
  rw [debugStr, String.utf8ByteSize_append, String.utf8ByteSize_append, utf8ByteSize_join, hsum,
    hquote]
  omega

theorem utf8ByteSize_debugError (plain : Char → Bool) (code : ErrorCode) (detail : String) :
    (debugMessage plain (.error code detail)).utf8ByteSize =
      28 + (debugCode code).utf8ByteSize + escapedSize plain detail := by
  have hnames : "Error".utf8ByteSize + " \x7b ".utf8ByteSize + "code".utf8ByteSize +
      ": ".utf8ByteSize + "detail".utf8ByteSize + ": ".utf8ByteSize + " \x7d".utf8ByteSize = 24 := by
    decide
  simp only [debugMessage, debugStruct, String.utf8ByteSize_append, utf8ByteSize_commas,
    List.map_cons, List.map_nil, List.sum_cons, List.sum_nil, List.length_cons, List.length_nil,
    utf8ByteSize_debugStr]
  omega

theorem utf8ByteSize_debugComplete (plain : Char → Bool) (urb : UrbComplete) :
    (debugMessage plain (.urbComplete urb)).utf8ByteSize =
      54 + (toString urb.seq).utf8ByteSize + (toString urb.status).utf8ByteSize +
        decimalSize urb.data + 2 * (urb.data.length - 1) := by
  have hnames : "UrbComplete".utf8ByteSize + "(".utf8ByteSize + "UrbComplete".utf8ByteSize +
      " \x7b ".utf8ByteSize + "seq".utf8ByteSize + ": ".utf8ByteSize + "status".utf8ByteSize +
      ": ".utf8ByteSize + "data".utf8ByteSize + ": ".utf8ByteSize + " \x7d".utf8ByteSize +
      ")".utf8ByteSize = 48 := by
    decide
  simp only [debugMessage, debugTuple, debugStruct, String.utf8ByteSize_append,
    utf8ByteSize_commas, List.map_cons, List.map_nil, List.sum_cons, List.sum_nil,
    List.length_cons, List.length_nil, utf8ByteSize_debugBytes]
  omega

/-! ## Bounds -/

theorem utf8ByteSize_uint8_le (x : UInt8) : (toString x).utf8ByteSize ≤ 40 :=
  utf8ByteSize_nat_le (Nat.lt_trans x.toNat_lt (by decide))

theorem utf8ByteSize_uint16_le (x : UInt16) : (toString x).utf8ByteSize ≤ 40 :=
  utf8ByteSize_nat_le (Nat.lt_trans x.toNat_lt (by decide))

theorem utf8ByteSize_uint32_le (x : UInt32) : (toString x).utf8ByteSize ≤ 40 :=
  utf8ByteSize_nat_le x.toNat_lt

theorem utf8ByteSize_int32_le (x : Int32) : (toString x).utf8ByteSize ≤ 41 := by
  have hx : toString x = toString x.toInt := rfl
  have hlow := x.le_toInt
  have hhigh := x.toInt_lt
  rw [hx]
  generalize x.toInt = n at hlow hhigh
  cases n with
  | ofNat n =>
      have hn : n < 2 ^ 32 := by
        rw [Int.ofNat_eq_natCast] at hhigh
        omega
      exact Nat.le_trans (utf8ByteSize_nat_le hn) (by decide)
  | negSucc n =>
      have hsign : "-".utf8ByteSize = 1 := by decide
      have hn : toString (Int.negSucc n) = "-" ++ toString (n + 1) := rfl
      have hlt : n + 1 < 2 ^ 32 := by omega
      have hsize := utf8ByteSize_nat_le hlt
      rw [hn, String.utf8ByteSize_append, hsign]
      omega

theorem decimalSize_le (bytes : Bytes) : decimalSize bytes ≤ 40 * bytes.length := by
  unfold decimalSize
  induction bytes with
  | nil => exact Nat.le_refl _
  | cons byte bytes ih =>
      have hbyte := utf8ByteSize_uint8_le byte
      rw [List.map_cons, List.sum_cons, List.length_cons]
      omega

theorem utf8ByteSize_escapeDebug_le (plain : Char → Bool) (c : Char) :
    (escapeDebug plain c).utf8ByteSize ≤ 28 := by
  unfold escapeDebug
  split_ifs
  iterate 6 · decide
  · rw [String.utf8ByteSize_singleton]
    exact Nat.le_trans c.utf8Size_le_four (by decide)
  · have hopen : "\\u\x7b".utf8ByteSize = 3 := by decide
    have hclose : "\x7d".utf8ByteSize = 1 := by decide
    have hc : c.toNat < 16 ^ 6 := by
      rcases c.valid with hlow | ⟨-, hhigh⟩
      · exact Nat.lt_trans hlow (by decide)
      · exact Nat.lt_trans hhigh (by decide)
    have hdigits := utf8ByteSize_digits_le (by decide) (by decide) hc
    rw [String.utf8ByteSize_append, String.utf8ByteSize_append, hopen, hclose]
    omega

theorem escapedSize_le (plain : Char → Bool) (s : String) :
    escapedSize plain s ≤ 28 * s.utf8ByteSize := by
  rw [← String.utf8Len_toList]
  unfold escapedSize
  induction s.toList with
  | nil => exact Nat.le_refl _
  | cons c cs ih =>
      have hescaped := utf8ByteSize_escapeDebug_le plain c
      have hpos := c.utf8Size_pos
      rw [List.map_cons, List.sum_cons, String.utf8Len_cons]
      omega

end FarBus.Protocol
