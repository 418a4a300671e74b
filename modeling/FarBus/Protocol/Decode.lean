/-
  Protocol/Decode.lean --- `decode`, and that it reads exactly the wire format.

  The `Cursor` of `crates/farbus-protocol/src/lib.rs` is a parser whose state is
  the unread rest.  `parse_payload` dispatches on the type byte; the fields of
  each message are read by one parser, written under the name of the record.

  Every record parser inverts the format of its record (`Decodes`), assembled
  field by field.  `decode_eq_ok_iff` is the result: `decode` accepts exactly the
  frames of messages within the limits of the wire.
-/
import FarBus.Foundation.Codec
import FarBus.Protocol.Format

set_option autoImplicit false

namespace FarBus.Protocol

open FarBus.Foundation

/-! ## The cursor -/

namespace Cursor

/-- `Cursor::take`: the next `n` bytes. -/
def take (n : Nat) : Parser Error Bytes := fun rest =>
  if rest.length < n then .error .truncated
  else .ok (rest.take n, rest.drop n)

def u8 : Parser Error UInt8 := do
  let head ← take 1
  return head.headD 0

def u16 : Parser Error UInt16 := do
  let buf ← take 2
  return UInt16.ofNat (ofBe buf)

def u32 : Parser Error UInt32 := do
  let buf ← take 4
  return UInt32.ofNat (ofBe buf)

/-- `read_exact` into a status buffer, then `i32::from_be_bytes`. -/
def i32 : Parser Error Int32 := do
  let buf ← take 4
  return (UInt32.ofNat (ofBe buf)).toInt32

/-- `read_exact` into an array of `n` bytes. -/
def readExact (n : Nat) : Parser Error (Vector UInt8 n) := fun rest =>
  if h : rest.length < n then .error .truncated
  else .ok (⟨(rest.take n).toArray, by simp; omega⟩, rest.drop n)

/-- `String::from_utf8`. -/
def fromUtf8 (bytes : Bytes) : Except Error String :=
  match String.fromUTF8? ⟨bytes.toArray⟩ with
  | some s => .ok s
  | none => .error .invalidPayload

def u8Str : Parser Error String := do
  let len ← u8
  let bytes ← take len.toNat
  fromUtf8 bytes

def u16Str : Parser Error String := do
  let len ← u16
  let bytes ← take len.toNat
  fromUtf8 bytes

/-- `Cursor::finish`: nothing may be left. -/
def finish : Parser Error Unit := fun rest =>
  if rest.isEmpty then .ok ((), rest) else .error .invalidPayload

end Cursor

open Cursor

/-! ## The payload parsers -/

def readHello : Parser Error Hello := do
  let protocolMin ← u8
  let protocolMax ← u8
  let fingerprint ← readExact 32
  let hostname ← u8Str
  return { protocolMin, protocolMax, fingerprint, hostname }

def readError : Parser Error (ErrorCode × String) := do
  let code ← (do u16ToCode (← u16))
  let detail ← u16Str
  return (code, detail)

def readDetachRequest : Parser Error DetachRequest := do
  let deviceId ← u32
  let authToken ← readExact 32
  return { deviceId, authToken }

def readDeviceListRequest : Parser Error DeviceListRequest := do
  let authToken ← readExact 32
  return { authToken }

/-- `vec![0u8; ep_count]`, filled unless it is empty. -/
def readEndpoints (epCount : Nat) : Parser Error Bytes :=
  if epCount > 0 then take epCount else pure []

def readInterface : Parser Error UsbInterfaceInfo := do
  let interfaceNumber ← u8
  let interfaceClass ← u8
  let interfaceSubclass ← u8
  let interfaceProtocol ← u8
  let epCount ← u8
  let endpoints ← readEndpoints epCount.toNat
  return { interfaceNumber, interfaceClass, interfaceSubclass, interfaceProtocol, endpoints }

def readDevice : Parser Error DeviceInfo := do
  let id ← u32
  let busId ← u8Str
  let vid ← u16
  let pid ← u16
  let usbClass ← u8
  let speed ← (do u8ToSpeed (← u8))
  let product ← u8Str
  let exported ← (do u8ToBool (← u8))
  let ifaceCount ← u8
  let interfaces ← readInterface.rep ifaceCount.toNat
  return { id, busId, vid, pid, usbClass, speed, product, exported, interfaces }

def readDeviceList : Parser Error DeviceList := do
  let count ← u16
  let devices ← readDevice.rep count.toNat
  return { devices }

def readPairRequest : Parser Error PairRequest := do
  let clientFingerprint ← readExact 32
  let pinHash ← readExact 32
  let clientName ← u8Str
  return { clientFingerprint, pinHash, clientName }

def readPairResponse : Parser Error PairResponse := do
  let success ← (do u8ToBool (← u8))
  let serverFingerprint ← readExact 32
  let authToken ← readExact 32
  return { success, serverFingerprint, authToken }

def readAttachRequest : Parser Error AttachRequest := do
  let deviceId ← u32
  let authToken ← readExact 32
  return { deviceId, authToken }

def readAttachResponse : Parser Error AttachResponse := do
  let deviceId ← u32
  let success ← (do u8ToBool (← u8))
  let usbipPort ← u16
  let busId ← u8Str
  return { deviceId, success, usbipPort, busId }

def readUrbSubmit : Parser Error UrbSubmit := do
  let seq ← u32
  let deviceId ← u32
  let endpoint ← u8
  let transfer ← (do u8ToTransfer (← u8))
  let requestedLength ← u32
  let dataLen ← u32
  let data ← take dataLen.toNat
  return { seq, deviceId, endpoint, transfer, requestedLength, data }

def readUrbComplete : Parser Error UrbComplete := do
  let seq ← u32
  let status ← i32
  let dataLen ← u32
  let data ← take dataLen.toNat
  return { seq, status, data }

def readUrbUnlink : Parser Error UrbUnlink := do
  let seq ← u32
  let deviceId ← u32
  return { seq, deviceId }

def readUrbUnlinked : Parser Error UrbUnlinked := do
  let seq ← u32
  let status ← i32
  return { seq, status }

/-- One arm of `parse_payload`: the fields, `finish`, the message. -/
def complete {α : Type} (fields : Parser Error α) (wrap : α → Message) :
    Parser Error Message := do
  let value ← fields
  finish
  return wrap value

/-- The parser `parse_payload` runs for a type byte. -/
def payloadParser (ty : UInt8) : Parser Error Message :=
  if ty = Message.HELLO_TYPE then complete readHello .hello
  else if ty = Message.ERROR_TYPE then complete readError fun e => .error e.1 e.2
  else if ty = Message.DETACH_TYPE then complete u32 .detach
  else if ty = Message.DETACH_REQUEST_TYPE then complete readDetachRequest .detachRequest
  else if ty = Message.DEVICE_LIST_REQUEST_TYPE then
    complete readDeviceListRequest .deviceListRequest
  else if ty = Message.DEVICE_LIST_TYPE then complete readDeviceList .deviceList
  else if ty = Message.PAIR_REQUEST_TYPE then complete readPairRequest .pairRequest
  else if ty = Message.PAIR_RESPONSE_TYPE then complete readPairResponse .pairResponse
  else if ty = Message.ATTACH_REQUEST_TYPE then complete readAttachRequest .attachRequest
  else if ty = Message.ATTACH_RESPONSE_TYPE then complete readAttachResponse .attachResponse
  else if ty = Message.URB_SUBMIT_TYPE then complete readUrbSubmit .urbSubmit
  else if ty = Message.URB_COMPLETE_TYPE then complete readUrbComplete .urbComplete
  else if ty = Message.URB_UNLINK_TYPE then complete readUrbUnlink .urbUnlink
  else if ty = Message.URB_UNLINKED_TYPE then complete readUrbUnlinked .urbUnlinked
  else throw (.unknownType ty)

def parsePayload (ty : UInt8) (payload : Bytes) : Except Error Message :=
  (payloadParser ty).run' payload

/-- Decodes one bounded control-plane message.  On a 64-bit target
`usize::try_from` of the length field cannot fail. -/
def decode (bytes : Bytes) : Except Error Message :=
  if bytes.length < HEADER_LEN then .error .truncated
  else if bytes.take 4 ≠ MAGIC then .error .badMagic
  else
    let version := bytes.getD 4 0
    if version ≠ VERSION then .error (.unsupportedVersion version)
    else
      let ty := bytes.getD 5 0
      let len := ofBe ((bytes.drop 6).take 4)
      if len > MAX_PAYLOAD then .error (.payloadTooLarge len MAX_PAYLOAD)
      else if bytes.length < HEADER_LEN + len then .error .truncated
      else if bytes.length ≠ HEADER_LEN + len then .error .invalidPayload
      else parsePayload ty ((bytes.drop HEADER_LEN).take len)

/-! ## Scalars and strings invert their formats -/

theorem decodes_take (n : Nat) : Decodes (take n) (fun bs => bs.length = n) id where
  complete := by
    intro bs r h
    have hlen : ¬ (bs ++ r).length < n := by rw [List.length_append]; omega
    show take n (bs ++ r) = .ok (bs, r)
    rw [take, if_neg hlen, List.take_left' h, List.drop_left' h]
  sound := by
    intro bs x r h
    rw [take] at h
    split at h
    · cases h
    · obtain ⟨rfl, rfl⟩ := Prod.mk.inj (Except.ok.inj h)
      refine ⟨?_, ?_⟩
      · rw [List.length_take]; omega
      · exact (List.take_append_drop n bs).symm

/-- A value computed from `n` bytes, when `enc` gives these bytes back. -/
theorem decodes_of_take {α : Type} {n : Nat} {conv : Bytes → α} {enc : α → Bytes}
    (hlen : ∀ x, (enc x).length = n) (hconv : ∀ x, conv (enc x) = x)
    (henc : ∀ bs, bs.length = n → enc (conv bs) = bs) :
    Decodes (do let buf ← take n; return conv buf) (fun _ => True) enc := by
  refine (Decodes.field enc (decodes_take n) (fun x _ => hlen x) fun buf hbuf =>
    Decodes.record ?_).reformat (fun x => (List.append_nil _).symm)
  intro x
  constructor
  · rintro ⟨_, rfl⟩
    exact (hconv x).symm
  · rintro rfl
    exact ⟨trivial, henc buf hbuf⟩

theorem decodes_u8 : Decodes u8 (fun _ => True) (fun b => [b]) := by
  refine decodes_of_take (fun _ => rfl) (fun _ => rfl) ?_
  intro bs h
  obtain ⟨b, rfl⟩ := List.length_eq_one_iff.mp h
  rfl

theorem decodes_u16 : Decodes u16 (fun _ => True) u16Be := by
  refine decodes_of_take length_u16Be ?_ ?_
  · intro x
    rw [u16Be, ofBe_toBe_of_lt x.toNat_lt, UInt16.ofNat_toNat]
  · intro bs h
    have hlt : ofBe bs < 2 ^ 16 := by simpa [h] using ofBe_lt bs
    rw [u16Be, UInt16.toNat_ofNat_of_lt' hlt, toBe_ofBe_of_length h]

/-- The four bytes of a `u32`, read and written back. -/
theorem u32Be_ofNat_ofBe {bs : Bytes} (h : bs.length = 4) :
    u32Be (UInt32.ofNat (ofBe bs)) = bs := by
  have hlt : ofBe bs < 2 ^ 32 := by simpa [h] using ofBe_lt bs
  rw [u32Be, UInt32.toNat_ofNat_of_lt' hlt, toBe_ofBe_of_length h]

theorem ofNat_ofBe_u32Be (x : UInt32) : UInt32.ofNat (ofBe (u32Be x)) = x := by
  rw [u32Be, ofBe_toBe_of_lt x.toNat_lt, UInt32.ofNat_toNat]

theorem decodes_u32 : Decodes u32 (fun _ => True) u32Be :=
  decodes_of_take length_u32Be ofNat_ofBe_u32Be fun _ => u32Be_ofNat_ofBe

theorem decodes_i32 : Decodes i32 (fun _ => True) i32Be := by
  refine decodes_of_take length_i32Be ?_ ?_
  · intro x
    rw [i32Be, ofNat_ofBe_u32Be]
    exact x.toInt32_toUInt32
  · intro bs h
    rw [i32Be, UInt32.toUInt32_toInt32]
    exact u32Be_ofNat_ofBe h

theorem decodes_readExact (n : Nat) :
    Decodes (readExact n) (fun _ => True) (fun v => v.toList) where
  complete := by
    intro v r _
    have hlen : v.toList.length = n := v.length_toList
    have hle : ¬ (v.toList ++ r).length < n := by rw [List.length_append]; omega
    rw [readExact, dif_neg hle]
    simp only [List.take_left' hlen, List.drop_left' hlen]
    rfl
  sound := by
    intro bs v r h
    rw [readExact] at h
    split at h
    · cases h
    · obtain ⟨rfl, rfl⟩ := Prod.mk.inj (Except.ok.inj h)
      refine ⟨trivial, ?_⟩
      show bs = (bs.take n).toArray.toList ++ bs.drop n
      rw [List.toList_toArray, List.take_append_drop]

theorem fromUtf8_eq_ok_iff (bytes : Bytes) (s : String) :
    fromUtf8 bytes = .ok s ↔ bytes = strBytes s := by
  unfold fromUtf8 String.fromUTF8?
  split
  · rename_i s' h
    split at h
    · obtain rfl := Option.some.inj h
      constructor
      · intro hs
        obtain rfl := Except.ok.inj hs
        rfl
      · rintro rfl
        rfl
    · cases h
  · rename_i h
    split at h
    · cases h
    · rename_i hvalid
      constructor
      · intro hs
        cases hs
      · rintro rfl
        exact absurd s.isValidUTF8 hvalid

/-- A string behind its length, the length read by `p`. -/
theorem decodes_prefixed_str {α : Type} {p : Parser Error α} {enc : α → Bytes}
    {max : Nat} (toLen : α → Nat) (ofLen : Nat → α) (hp : Decodes p (fun _ => True) enc)
    (hofLen : ∀ a, ofLen (toLen a) = a) (htoLen : ∀ n, n ≤ max → toLen (ofLen n) = n)
    (hmax : ∀ a, toLen a ≤ max) :
    Decodes (do let len ← p; let bytes ← take (toLen len); fromUtf8 bytes)
      (fun s : String => s.utf8ByteSize ≤ max)
      (fun s => enc (ofLen s.utf8ByteSize) ++ strBytes s) := by
  refine Decodes.field (fun s : String => ofLen s.utf8ByteSize) hp (fun _ _ => trivial) fun len _ => ?_
  have hstr := (decodes_take (toLen len)).convert fromUtf8_eq_ok_iff
  refine hstr.restrict fun s => ?_
  rw [length_strBytes]
  constructor
  · rintro ⟨hle, rfl⟩
    exact (htoLen _ hle).symm
  · intro h
    rw [h]
    exact ⟨hmax len, hofLen len⟩

theorem decodes_u8Str : Decodes u8Str (fun s => s.utf8ByteSize ≤ 255) u8StrBytes :=
  decodes_prefixed_str UInt8.toNat UInt8.ofNat decodes_u8
    (fun _ => UInt8.ofNat_toNat) (fun _ h => UInt8.toNat_ofNat_of_lt' (Nat.lt_succ_of_le h))
    (fun a => Nat.le_of_lt_succ a.toNat_lt)

theorem decodes_u16Str : Decodes u16Str (fun s => s.utf8ByteSize ≤ 65535) u16StrBytes :=
  decodes_prefixed_str UInt16.toNat UInt16.ofNat decodes_u16
    (fun _ => UInt16.ofNat_toNat) (fun _ h => UInt16.toNat_ofNat_of_lt' (Nat.lt_succ_of_le h))
    (fun a => Nat.le_of_lt_succ a.toNat_lt)

theorem decodes_speed :
    Decodes (do u8ToSpeed (← u8)) (fun _ => True) (fun speed => [speedToU8 speed]) :=
  decodes_u8.convert u8ToSpeed_eq_ok_iff

theorem decodes_transfer :
    Decodes (do u8ToTransfer (← u8)) (fun _ => True) (fun t => [transferToU8 t]) :=
  decodes_u8.convert u8ToTransfer_eq_ok_iff

theorem decodes_bool : Decodes (do u8ToBool (← u8)) (fun _ => True) (fun b => [boolToU8 b]) :=
  decodes_u8.convert u8ToBool_eq_ok_iff

theorem decodes_code :
    Decodes (do u16ToCode (← u16)) (fun _ => True) (fun code => u16Be (codeToU16 code)) :=
  decodes_u16.convert u16ToCode_eq_ok_iff

/-! ## Records invert their formats -/

theorem decodes_hello :
    Decodes readHello (fun h => h.hostname.utf8ByteSize ≤ 255)
      (fun h => payloadBytes (.hello h)) := by
  refine (Decodes.field Hello.protocolMin decodes_u8 (fun _ _ => trivial) fun protocolMin _ =>
    Decodes.field Hello.protocolMax decodes_u8 (fun _ _ => trivial) fun protocolMax _ =>
    Decodes.field Hello.fingerprint (decodes_readExact 32) (fun _ _ => trivial)
      fun fingerprint _ =>
    Decodes.field Hello.hostname decodes_u8Str (fun _ h => h.1.1.1) fun hostname hhost =>
    Decodes.record ?_).reformat ?_
  · rintro ⟨_, _, _, _⟩
    simp only [Hello.mk.injEq]
    grind
  · simp [payloadBytes]

theorem decodes_error :
    Decodes readError (fun e => e.2.utf8ByteSize ≤ 65535)
      (fun e => payloadBytes (.error e.1 e.2)) := by
  refine (Decodes.field Prod.fst decodes_code (fun _ _ => trivial) fun code _ =>
    Decodes.field Prod.snd decodes_u16Str (fun _ h => h.1) fun detail hdetail =>
    Decodes.record ?_).reformat ?_
  · rintro ⟨_, _⟩
    simp only [Prod.mk.injEq]
    grind
  · simp [payloadBytes]

theorem decodes_detachRequest :
    Decodes readDetachRequest (fun _ => True) (fun req => payloadBytes (.detachRequest req)) := by
  refine (Decodes.field DetachRequest.deviceId decodes_u32 (fun _ _ => trivial) fun deviceId _ =>
    Decodes.field DetachRequest.authToken (decodes_readExact 32) (fun _ _ => trivial)
      fun authToken _ =>
    Decodes.record ?_).reformat ?_
  · rintro ⟨_, _⟩
    simp
  · simp [payloadBytes]

theorem decodes_deviceListRequest :
    Decodes readDeviceListRequest (fun _ => True)
      (fun req => payloadBytes (.deviceListRequest req)) := by
  refine (Decodes.field DeviceListRequest.authToken (decodes_readExact 32) (fun _ _ => trivial)
      fun authToken _ =>
    Decodes.record ?_).reformat ?_
  · rintro ⟨_⟩
    simp
  · simp [payloadBytes]

/-- A count that fits its byte is read back as it was. -/
theorem eq_toNat_of_ofNat_eq {n : Nat} {count : UInt8} (hle : n ≤ 255)
    (h : UInt8.ofNat n = count) : n = count.toNat := by
  rw [← h, UInt8.toNat_ofNat_of_lt' (Nat.lt_succ_of_le hle)]

theorem decodes_readEndpoints (epCount : Nat) :
    Decodes (readEndpoints epCount) (fun bs => bs.length = epCount) id := by
  unfold readEndpoints
  split
  · exact decodes_take epCount
  · rename_i h
    have hzero : epCount = 0 := by omega
    subst hzero
    constructor
    · intro bs r hlen
      rw [List.length_eq_zero_iff.mp hlen]
      rfl
    · intro bs x r hx
      obtain ⟨rfl, rfl⟩ := Prod.mk.inj (Except.ok.inj hx)
      exact ⟨rfl, rfl⟩

theorem decodes_interface : Decodes readInterface InterfaceFits interfaceBytes := by
  refine (Decodes.field UsbInterfaceInfo.interfaceNumber decodes_u8 (fun _ _ => trivial)
      fun interfaceNumber _ =>
    Decodes.field UsbInterfaceInfo.interfaceClass decodes_u8 (fun _ _ => trivial)
      fun interfaceClass _ =>
    Decodes.field UsbInterfaceInfo.interfaceSubclass decodes_u8 (fun _ _ => trivial)
      fun interfaceSubclass _ =>
    Decodes.field UsbInterfaceInfo.interfaceProtocol decodes_u8 (fun _ _ => trivial)
      fun interfaceProtocol _ =>
    Decodes.field (fun iface : UsbInterfaceInfo => UInt8.ofNat iface.endpoints.length)
      decodes_u8 (fun _ _ => trivial) fun epCount _ =>
    Decodes.field UsbInterfaceInfo.endpoints (decodes_readEndpoints epCount.toNat) ?_
      fun endpoints hlen =>
    Decodes.record ?_).reformat ?_
  · rintro iface ⟨⟨⟨⟨⟨hfits, _⟩, _⟩, _⟩, _⟩, hcount⟩
    exact eq_toNat_of_ofNat_eq hfits hcount
  · have hcount := epCount.toNat_lt
    have hback : UInt8.ofNat endpoints.length = epCount := by rw [hlen, UInt8.ofNat_toNat]
    rintro ⟨_, _, _, _, _⟩
    simp only [UsbInterfaceInfo.mk.injEq, InterfaceFits]
    grind
  · simp [interfaceBytes]

theorem decodes_device : Decodes readDevice DeviceFits deviceBytes := by
  refine (Decodes.field DeviceInfo.id decodes_u32 (fun _ _ => trivial) fun id _ =>
    Decodes.field DeviceInfo.busId decodes_u8Str (fun _ h => h.1.busId) fun busId hbus =>
    Decodes.field DeviceInfo.vid decodes_u16 (fun _ _ => trivial) fun vid _ =>
    Decodes.field DeviceInfo.pid decodes_u16 (fun _ _ => trivial) fun pid _ =>
    Decodes.field DeviceInfo.usbClass decodes_u8 (fun _ _ => trivial) fun usbClass _ =>
    Decodes.field DeviceInfo.speed decodes_speed (fun _ _ => trivial) fun speed _ =>
    Decodes.field DeviceInfo.product decodes_u8Str (fun _ h => h.1.1.1.1.1.1.product)
      fun product hproduct =>
    Decodes.field DeviceInfo.exported decodes_bool (fun _ _ => trivial) fun exported _ =>
    Decodes.field (fun device : DeviceInfo => UInt8.ofNat device.interfaces.length)
      decodes_u8 (fun _ _ => trivial) fun ifaceCount _ =>
    Decodes.field DeviceInfo.interfaces (decodes_interface.rep ifaceCount.toNat) ?_
      fun interfaces hifaces =>
    Decodes.record ?_).reformat ?_
  · rintro device ⟨⟨⟨⟨⟨⟨⟨⟨⟨hfits, _⟩, _⟩, _⟩, _⟩, _⟩, _⟩, _⟩, _⟩, hcount⟩
    exact ⟨hfits.interface, eq_toNat_of_ofNat_eq hfits.interfaces hcount⟩
  · have hcount := ifaceCount.toNat_lt
    have hback : UInt8.ofNat interfaces.length = ifaceCount := by
      rw [hifaces.2, UInt8.ofNat_toNat]
    intro device
    constructor
    · rintro ⟨⟨⟨⟨⟨⟨⟨⟨⟨⟨_, rfl⟩, rfl⟩, rfl⟩, rfl⟩, rfl⟩, rfl⟩, rfl⟩, rfl⟩, _⟩, rfl⟩
      rfl
    · rintro rfl
      have hfits : DeviceFits ⟨id, busId, vid, pid, usbClass, speed, product, exported,
          interfaces⟩ := ⟨hbus, hproduct, by show interfaces.length ≤ 255; omega, hifaces.1⟩
      exact ⟨⟨⟨⟨⟨⟨⟨⟨⟨⟨hfits, rfl⟩, rfl⟩, rfl⟩, rfl⟩, rfl⟩, rfl⟩, rfl⟩, rfl⟩, hback⟩, rfl⟩
  · simp [deviceBytes]

theorem decodes_deviceList :
    Decodes readDeviceList (fun list => FieldsFit (.deviceList list))
      (fun list => payloadBytes (.deviceList list)) := by
  refine (Decodes.field (fun list : DeviceList => UInt16.ofNat list.devices.length)
      decodes_u16 (fun _ _ => trivial) fun count _ =>
    Decodes.field DeviceList.devices (decodes_device.rep count.toNat) ?_
      fun devices hdevices =>
    Decodes.record ?_).reformat ?_
  · rintro list ⟨⟨hle, hall⟩, hcount⟩
    rw [← hcount, UInt16.toNat_ofNat_of_lt' (Nat.lt_succ_of_le hle)]
    exact ⟨hall, rfl⟩
  · have hcount := count.toNat_lt
    have hback : UInt16.ofNat devices.length = count := by
      rw [hdevices.2, UInt16.ofNat_toNat]
    intro list
    constructor
    · rintro ⟨_, rfl⟩
      rfl
    · rintro rfl
      exact ⟨⟨⟨by show devices.length ≤ 65535; omega, hdevices.1⟩, hback⟩, rfl⟩
  · simp [payloadBytes]

theorem decodes_pairRequest :
    Decodes readPairRequest (fun pair => pair.clientName.utf8ByteSize ≤ 255)
      (fun pair => payloadBytes (.pairRequest pair)) := by
  refine (Decodes.field PairRequest.clientFingerprint (decodes_readExact 32)
      (fun _ _ => trivial) fun clientFingerprint _ =>
    Decodes.field PairRequest.pinHash (decodes_readExact 32) (fun _ _ => trivial)
      fun pinHash _ =>
    Decodes.field PairRequest.clientName decodes_u8Str (fun _ h => h.1.1)
      fun clientName hname =>
    Decodes.record ?_).reformat ?_
  · rintro ⟨_, _, _⟩
    simp only [PairRequest.mk.injEq]
    grind
  · simp [payloadBytes]

theorem decodes_pairResponse :
    Decodes readPairResponse (fun _ => True) (fun pair => payloadBytes (.pairResponse pair)) := by
  refine (Decodes.field PairResponse.success decodes_bool (fun _ _ => trivial) fun success _ =>
    Decodes.field PairResponse.serverFingerprint (decodes_readExact 32) (fun _ _ => trivial)
      fun serverFingerprint _ =>
    Decodes.field PairResponse.authToken (decodes_readExact 32) (fun _ _ => trivial)
      fun authToken _ =>
    Decodes.record ?_).reformat ?_
  · rintro ⟨_, _, _⟩
    simp [and_assoc]
  · simp [payloadBytes]

theorem decodes_attachRequest :
    Decodes readAttachRequest (fun _ => True)
      (fun attach => payloadBytes (.attachRequest attach)) := by
  refine (Decodes.field AttachRequest.deviceId decodes_u32 (fun _ _ => trivial) fun deviceId _ =>
    Decodes.field AttachRequest.authToken (decodes_readExact 32) (fun _ _ => trivial)
      fun authToken _ =>
    Decodes.record ?_).reformat ?_
  · rintro ⟨_, _⟩
    simp
  · simp [payloadBytes]

theorem decodes_attachResponse :
    Decodes readAttachResponse (fun attach => attach.busId.utf8ByteSize ≤ 255)
      (fun attach => payloadBytes (.attachResponse attach)) := by
  refine (Decodes.field AttachResponse.deviceId decodes_u32 (fun _ _ => trivial)
      fun deviceId _ =>
    Decodes.field AttachResponse.success decodes_bool (fun _ _ => trivial) fun success _ =>
    Decodes.field AttachResponse.usbipPort decodes_u16 (fun _ _ => trivial) fun usbipPort _ =>
    Decodes.field AttachResponse.busId decodes_u8Str (fun _ h => h.1.1.1) fun busId hbus =>
    Decodes.record ?_).reformat ?_
  · rintro ⟨_, _, _, _⟩
    simp only [AttachResponse.mk.injEq]
    grind
  · simp [payloadBytes]

/-- A data length that fits its four bytes is read back as it was. -/
theorem length_eq_toNat {data : Bytes} {dataLen : UInt32} (hlt : data.length < 2 ^ 32)
    (h : UInt32.ofNat data.length = dataLen) : data.length = dataLen.toNat := by
  rw [← h, UInt32.toNat_ofNat_of_lt' hlt]

theorem decodes_urbSubmit :
    Decodes readUrbSubmit (fun urb => urb.data.length < 2 ^ 32)
      (fun urb => payloadBytes (.urbSubmit urb)) := by
  refine (Decodes.field UrbSubmit.seq decodes_u32 (fun _ _ => trivial) fun seq _ =>
    Decodes.field UrbSubmit.deviceId decodes_u32 (fun _ _ => trivial) fun deviceId _ =>
    Decodes.field UrbSubmit.endpoint decodes_u8 (fun _ _ => trivial) fun endpoint _ =>
    Decodes.field UrbSubmit.transfer decodes_transfer (fun _ _ => trivial) fun transfer _ =>
    Decodes.field UrbSubmit.requestedLength decodes_u32 (fun _ _ => trivial)
      fun requestedLength _ =>
    Decodes.field (fun urb : UrbSubmit => UInt32.ofNat urb.data.length) decodes_u32
      (fun _ _ => trivial) fun dataLen _ =>
    Decodes.field UrbSubmit.data (decodes_take dataLen.toNat)
      (fun _ h => length_eq_toNat h.1.1.1.1.1.1 h.2) fun data hdata =>
    Decodes.record ?_).reformat ?_
  · have hlen := dataLen.toNat_lt
    have hback : UInt32.ofNat data.length = dataLen := by rw [hdata, UInt32.ofNat_toNat]
    rintro ⟨_, _, _, _, _, _⟩
    simp only [UrbSubmit.mk.injEq]
    grind
  · simp [payloadBytes]

theorem decodes_urbComplete :
    Decodes readUrbComplete (fun urb => urb.data.length < 2 ^ 32)
      (fun urb => payloadBytes (.urbComplete urb)) := by
  refine (Decodes.field UrbComplete.seq decodes_u32 (fun _ _ => trivial) fun seq _ =>
    Decodes.field UrbComplete.status decodes_i32 (fun _ _ => trivial) fun status _ =>
    Decodes.field (fun urb : UrbComplete => UInt32.ofNat urb.data.length) decodes_u32
      (fun _ _ => trivial) fun dataLen _ =>
    Decodes.field UrbComplete.data (decodes_take dataLen.toNat)
      (fun _ h => length_eq_toNat h.1.1.1 h.2) fun data hdata =>
    Decodes.record ?_).reformat ?_
  · have hlen := dataLen.toNat_lt
    have hback : UInt32.ofNat data.length = dataLen := by rw [hdata, UInt32.ofNat_toNat]
    rintro ⟨_, _, _⟩
    simp only [UrbComplete.mk.injEq]
    grind
  · simp [payloadBytes]

theorem decodes_urbUnlink :
    Decodes readUrbUnlink (fun _ => True) (fun unlink => payloadBytes (.urbUnlink unlink)) := by
  refine (Decodes.field UrbUnlink.seq decodes_u32 (fun _ _ => trivial) fun seq _ =>
    Decodes.field UrbUnlink.deviceId decodes_u32 (fun _ _ => trivial) fun deviceId _ =>
    Decodes.record ?_).reformat ?_
  · rintro ⟨_, _⟩
    simp
  · simp [payloadBytes]

theorem decodes_urbUnlinked :
    Decodes readUrbUnlinked (fun _ => True)
      (fun unlinked => payloadBytes (.urbUnlinked unlinked)) := by
  refine (Decodes.field UrbUnlinked.seq decodes_u32 (fun _ _ => trivial) fun seq _ =>
    Decodes.field UrbUnlinked.status decodes_i32 (fun _ _ => trivial) fun status _ =>
    Decodes.record ?_).reformat ?_
  · rintro ⟨_, _⟩
    simp
  · simp [payloadBytes]

/-! ## The payload as a whole -/

theorem complete_run' {α : Type} {fields : Parser Error α} {wf : α → Prop}
    {enc : α → Bytes} (h : Decodes fields wf enc) (wrap : α → Message) (value : α)
    (hwf : wf value) : (complete fields wrap).run' (enc value) = .ok (wrap value) := by
  have hvalue := h.complete value [] hwf
  rw [List.append_nil] at hvalue
  show (complete fields wrap (enc value) >>= fun q => pure q.1) = _
  rw [complete, Parser.bind_ok hvalue]
  rfl

/-- `p` returns only messages of type `ty` whose fields fit, on their payload. -/
def Accepts (ty : UInt8) (p : Parser Error Message) : Prop :=
  ∀ payload msg, p.run' payload = .ok msg →
    msg.ty = ty ∧ FieldsFit msg ∧ payload = payloadBytes msg

theorem Accepts.complete {α : Type} {fields : Parser Error α} {wf : α → Prop}
    {enc : α → Bytes} {ty : UInt8} (h : Decodes fields wf enc) (wrap : α → Message)
    (hwrap : ∀ value, wf value →
      (wrap value).ty = ty ∧ FieldsFit (wrap value) ∧ enc value = payloadBytes (wrap value)) :
    Accepts ty (complete fields wrap) := by
  intro payload msg hok
  have hok' : (Protocol.complete fields wrap payload >>= fun q => pure q.1) = .ok msg := hok
  cases hc : Protocol.complete fields wrap payload with
  | error e =>
      rw [hc] at hok'
      cases hok'
  | ok q =>
      rw [hc] at hok'
      obtain rfl := Except.ok.inj hok'
      obtain ⟨value, rest, hvalue, hc⟩ := Parser.of_bind_ok hc
      obtain ⟨_, rest', hfinish, hc⟩ := Parser.of_bind_ok hc
      have hmsg : wrap value = q.1 := congrArg Prod.fst (Except.ok.inj hc)
      obtain ⟨hwf, hpayload⟩ := h.sound payload value rest hvalue
      obtain ⟨hty, hfits, hbytes⟩ := hwrap value hwf
      rw [finish] at hfinish
      split at hfinish
      · rename_i hempty
        rw [List.isEmpty_iff.mp hempty, List.append_nil] at hpayload
        rw [← hmsg, hpayload]
        exact ⟨hty, hfits, hbytes⟩
      · cases hfinish

theorem Accepts.ite {ty arm : UInt8} {p q : Parser Error Message} (hp : Accepts arm p)
    (hq : Accepts ty q) : Accepts ty (if ty = arm then p else q) := by
  by_cases h : ty = arm
  · rw [if_pos h, h]
    exact hp
  · rw [if_neg h]
    exact hq

theorem payloadParser_accepts (ty : UInt8) : Accepts ty (payloadParser ty) := by
  unfold payloadParser
  refine .ite (.complete decodes_hello .hello fun _ h => ⟨rfl, h, rfl⟩) ?_
  refine .ite (.complete decodes_error (fun e => .error e.1 e.2) fun _ h => ⟨rfl, h, rfl⟩) ?_
  refine .ite (.complete decodes_u32 .detach fun _ h => ⟨rfl, h, rfl⟩) ?_
  refine .ite (.complete decodes_detachRequest .detachRequest fun _ h => ⟨rfl, h, rfl⟩) ?_
  refine .ite (.complete decodes_deviceListRequest .deviceListRequest fun _ h => ⟨rfl, h, rfl⟩) ?_
  refine .ite (.complete decodes_deviceList .deviceList fun _ h => ⟨rfl, h, rfl⟩) ?_
  refine .ite (.complete decodes_pairRequest .pairRequest fun _ h => ⟨rfl, h, rfl⟩) ?_
  refine .ite (.complete decodes_pairResponse .pairResponse fun _ h => ⟨rfl, h, rfl⟩) ?_
  refine .ite (.complete decodes_attachRequest .attachRequest fun _ h => ⟨rfl, h, rfl⟩) ?_
  refine .ite (.complete decodes_attachResponse .attachResponse fun _ h => ⟨rfl, h, rfl⟩) ?_
  refine .ite (.complete decodes_urbSubmit .urbSubmit fun _ h => ⟨rfl, h, rfl⟩) ?_
  refine .ite (.complete decodes_urbComplete .urbComplete fun _ h => ⟨rfl, h, rfl⟩) ?_
  refine .ite (.complete decodes_urbUnlink .urbUnlink fun _ h => ⟨rfl, h, rfl⟩) ?_
  refine .ite (.complete decodes_urbUnlinked .urbUnlinked fun _ h => ⟨rfl, h, rfl⟩) ?_
  intro payload msg h
  cases h

theorem payloadParser_run' (msg : Message) (h : FieldsFit msg) :
    (payloadParser msg.ty).run' (payloadBytes msg) = .ok msg := by
  cases msg with
  | hello hello => exact complete_run' decodes_hello .hello hello h
  | error code detail => exact complete_run' decodes_error (fun e => .error e.1 e.2) (code, detail) h
  | detach deviceId => exact complete_run' decodes_u32 .detach deviceId h
  | detachRequest req => exact complete_run' decodes_detachRequest .detachRequest req h
  | deviceList list => exact complete_run' decodes_deviceList .deviceList list h
  | deviceListRequest req => exact complete_run' decodes_deviceListRequest .deviceListRequest req h
  | pairRequest pair => exact complete_run' decodes_pairRequest .pairRequest pair h
  | pairResponse pair => exact complete_run' decodes_pairResponse .pairResponse pair h
  | attachRequest attach => exact complete_run' decodes_attachRequest .attachRequest attach h
  | attachResponse attach => exact complete_run' decodes_attachResponse .attachResponse attach h
  | urbSubmit urb => exact complete_run' decodes_urbSubmit .urbSubmit urb h
  | urbComplete urb => exact complete_run' decodes_urbComplete .urbComplete urb h
  | urbUnlink unlink => exact complete_run' decodes_urbUnlink .urbUnlink unlink h
  | urbUnlinked unlinked => exact complete_run' decodes_urbUnlinked .urbUnlinked unlinked h

/-- `parse_payload` accepts exactly the payloads of messages of the given type
whose fields fit. -/
theorem parsePayload_eq_ok_iff (ty : UInt8) (payload : Bytes) (msg : Message) :
    parsePayload ty payload = .ok msg ↔
      msg.ty = ty ∧ FieldsFit msg ∧ payload = payloadBytes msg := by
  constructor
  · exact payloadParser_accepts ty payload msg
  · rintro ⟨rfl, hfits, rfl⟩
    exact payloadParser_run' msg hfits

/-! ## The frame -/

/-- Ten header bytes, split as `decode` indexes them. -/
theorem header_split {bytes : Bytes} (h : HEADER_LEN ≤ bytes.length) :
    bytes = bytes.take 4 ++ [bytes.getD 4 0, bytes.getD 5 0] ++ (bytes.drop 6).take 4 ++
      bytes.drop HEADER_LEN := by
  match bytes, h with
  | _ :: _ :: _ :: _ :: _ :: _ :: _ :: _ :: _ :: _ :: _, _ => rfl
  | [], h | [_], h | [_, _], h | [_, _, _], h | [_, _, _, _], h | [_, _, _, _, _], h
  | [_, _, _, _, _, _], h | [_, _, _, _, _, _, _], h | [_, _, _, _, _, _, _, _], h
  | [_, _, _, _, _, _, _, _, _], h => simp [HEADER_LEN] at h

/-- The checks of `decode`, as conditions on the header. -/
theorem decode_eq_ok_iff_header (bytes : Bytes) (msg : Message) :
    decode bytes = .ok msg ↔ HEADER_LEN ≤ bytes.length ∧ bytes.take 4 = MAGIC ∧
      bytes.getD 4 0 = VERSION ∧ ofBe ((bytes.drop 6).take 4) ≤ MAX_PAYLOAD ∧
      bytes.length = HEADER_LEN + ofBe ((bytes.drop 6).take 4) ∧
      parsePayload (bytes.getD 5 0) (bytes.drop HEADER_LEN) = .ok msg := by
  have hwhole : bytes.length = HEADER_LEN + ofBe ((bytes.drop 6).take 4) →
      (bytes.drop HEADER_LEN).take (ofBe ((bytes.drop 6).take 4)) = bytes.drop HEADER_LEN := by
    intro hlen
    apply List.take_of_length_le
    rw [List.length_drop]
    omega
  simp only [decode, ite_error_eq_ok_iff, not_not, ne_eq]
  constructor
  · rintro ⟨h1, h2, h3, h4, _, h6, h7⟩
    rw [hwhole h6] at h7
    exact ⟨by omega, h2, h3, by omega, h6, h7⟩
  · rintro ⟨h1, h2, h3, h4, h5, h6⟩
    rw [hwhole h5]
    exact ⟨by omega, h2, h3, by omega, by omega, h5, h6⟩

theorem length_frameBytes (msg : Message) :
    (frameBytes msg).length = HEADER_LEN + (payloadBytes msg).length := by
  simp [frameBytes, MAGIC, HEADER_LEN]
  omega

/-- `decode` accepts exactly the frames of messages within the limits. -/
theorem decode_eq_ok_iff (bytes : Bytes) (msg : Message) :
    decode bytes = .ok msg ↔ Encodable msg ∧ bytes = frameBytes msg := by
  have hmax : MAX_PAYLOAD < 2 ^ 32 := by decide
  rw [decode_eq_ok_iff_header]
  constructor
  · rintro ⟨hlen, hmagic, hversion, hle, hwhole, hparse⟩
    obtain ⟨hty, hfields, hpayload⟩ := (parsePayload_eq_ok_iff _ _ _).mp hparse
    have hfour : ((bytes.drop 6).take 4).length = 4 := by
      rw [List.length_take, List.length_drop]
      unfold HEADER_LEN at hlen
      omega
    have hlenPayload : (payloadBytes msg).length = ofBe ((bytes.drop 6).take 4) := by
      rw [← hpayload, List.length_drop]
      omega
    refine ⟨⟨hfields, by omega⟩, ?_⟩
    rw [frameBytes, hlenPayload, u32Be_ofNat_ofBe hfour, ← hpayload, ← hmagic, ← hversion, hty]
    exact header_split hlen
  · rintro ⟨henc, rfl⟩
    have hle := henc.payload
    have hlenField : ofBe (((frameBytes msg).drop 6).take 4) = (payloadBytes msg).length := by
      have hfield : ((frameBytes msg).drop 6).take 4
          = u32Be (UInt32.ofNat (payloadBytes msg).length) := by
        simp [frameBytes, MAGIC]
      have hlt : (payloadBytes msg).length < UInt32.size := Nat.lt_of_le_of_lt hle hmax
      rw [hfield, u32Be, UInt32.toNat_ofNat_of_lt' hlt, ofBe_toBe_of_lt hlt]
    have hdrop : (frameBytes msg).drop HEADER_LEN = payloadBytes msg := by
      simp [frameBytes, MAGIC, HEADER_LEN]
    rw [hlenField, hdrop, length_frameBytes]
    refine ⟨Nat.le_add_right _ _, ?_, ?_, hle, rfl, ?_⟩
    · simp [frameBytes, MAGIC]
    · simp [frameBytes, MAGIC]
    · refine (parsePayload_eq_ok_iff _ _ _).mpr ⟨?_, henc.fields, rfl⟩
      simp [frameBytes, MAGIC]

end FarBus.Protocol
