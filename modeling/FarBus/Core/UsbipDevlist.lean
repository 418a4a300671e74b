/-
  Core/UsbipDevlist.lean --- the reply to `OP_REQ_DEVLIST`, as a USB/IP client reads it.

  A client goes by the counts in the reply: `ndev` in the header, and in each record of a
  device, in its last byte, how many records of interfaces follow.  `readDevlist` is such
  a client.  `ndev` has four bytes, so there is a number of devices it cannot announce.
-/
import FarBus.Core.ForwardManagement

set_option autoImplicit false

namespace FarBus.Core

open FarBus.Foundation
open FarBus.Protocol

/-! ## What a client reads -/

/-- `n` bytes of a record. -/
def slice (record : Bytes) (offset n : Nat) : Bytes := (record.drop offset).take n

/-- Class, subclass and protocol. -/
abbrev InterfaceTriple : Type := UInt8 × UInt8 × UInt8

structure ListedDevice where
  busid : Bytes
  devnum : Nat
  vid : Nat
  pid : Nat
  usbClass : UInt8
  interfaces : List InterfaceTriple
  deriving DecidableEq, Repr

/-- The client gives up where the reply ends too early, or is no such reply. -/
abbrev Reader : Type → Type := Parser Unit

def readBytes (n : Nat) : Reader Bytes := fun input =>
  if input.length < n then .error () else .ok (input.take n, input.drop n)

def readInterface : Reader InterfaceTriple := do
  let record ← readBytes 4
  return (record.getD 0 0, record.getD 1 0, record.getD 2 0)

/-- A `usbip_usb_device` and its interfaces. -/
def readDevice : Reader ListedDevice := do
  let record ← readBytes 312
  let interfaces ← readInterface.rep (record.getD 311 0).toNat
  return { busid := slice record 256 32
           devnum := ofBe (slice record 292 4)
           vid := ofBe (slice record 300 2)
           pid := ofBe (slice record 302 2)
           usbClass := record.getD 306 0
           interfaces }

def readDevlist : Reader (List ListedDevice) := do
  let header ← readBytes 12
  if slice header 0 8 = u16Be USBIP_VERSION ++ u16Be OP_REP_DEVLIST ++ u32Be 0 then
    readDevice.rep (ofBe (slice header 8 4))
  else throw ()

/-! ## What it is to read -/

/-- The bus id, cut to 31 bytes, with a NUL after it and more NULs up to 32 bytes. -/
def busidField (busId : String) : Bytes :=
  let kept := (strBytes busId).take 31
  kept ++ 0 :: List.replicate (31 - kept.length) 0

/-- The interfaces of a device, one of its own class where it has none. -/
def listedInterfaces (device : LocalDevice) : List InterfaceTriple :=
  if device.info.interfaces = [] then [(device.info.usbClass, 0, 0)]
  else device.info.interfaces.map fun iface =>
    (iface.interfaceClass, iface.interfaceSubclass, iface.interfaceProtocol)

def listedDevice (device : LocalDevice) : ListedDevice :=
  { busid := busidField device.info.busId
    devnum := device.info.id.toNat
    vid := device.info.vid.toNat
    pid := device.info.pid.toNat
    usbClass := device.info.usbClass
    interfaces := listedInterfaces device }

/-! ## Slices of a record -/

theorem slice_append_left {a : Bytes} {n : Nat} (h : a.length = n) (b : Bytes) :
    slice (a ++ b) 0 n = a := by
  rw [slice, List.drop_zero, List.take_left' h]

theorem slice_append_right {a : Bytes} {offset : Nat} (h : a.length ≤ offset) (b : Bytes) (n : Nat) :
    slice (a ++ b) offset n = slice b (offset - a.length) n := by
  rw [slice, slice, List.drop_append, List.drop_eq_nil_of_le h, List.nil_append]

theorem getD_append_right {a : Bytes} {i : Nat} (h : a.length ≤ i) (b : Bytes) (x : UInt8) :
    (a ++ b).getD i x = b.getD (i - a.length) x := by
  rw [List.getD_eq_getElem?_getD, List.getElem?_append_right h, ← List.getD_eq_getElem?_getD]

theorem length_padded (src : String) {n : Nat} (h : 0 < n) : (padded src n).length = n := by
  simp only [padded, List.length_append, List.length_take, List.length_replicate]
  omega

theorem padded_busid (busId : String) : padded busId 32 = busidField busId := by
  unfold padded busidField
  have hkept : ((strBytes busId).take 31).length = min 31 (strBytes busId).length :=
    List.length_take
  have htake : (strBytes busId).take (min (strBytes busId).length (32 - 1)) =
      (strBytes busId).take 31 := by
    rw [Nat.min_comm, ← List.take_take, List.take_length]
  dsimp only
  rw [htake, ← List.replicate_succ, hkept]
  congr 2
  omega

theorem ofBe_u32Be (x : UInt32) : ofBe (u32Be x) = x.toNat := ofBe_toBe_of_lt x.toNat_lt

theorem ofBe_u16Be (x : UInt16) : ofBe (u16Be x) = x.toNat := ofBe_toBe_of_lt x.toNat_lt

/-! ## A record is read back -/

theorem readBytes_append {bytes : Bytes} {n : Nat} (h : bytes.length = n) (rest : Bytes) :
    readBytes n (bytes ++ rest) = .ok (bytes, rest) := by
  have hlength : ¬ (bytes ++ rest).length < n := by
    rw [List.length_append]
    omega
  rw [readBytes, if_neg hlength, List.take_left' h, List.drop_left' h]

/-- The fields after the path, and the number of interfaces as the last of them. -/
theorem encodeDeviceHeader_fields (device : LocalDevice) :
    ∃ niface : UInt8, encodeDeviceHeader device =
        padded ("/sys/bus/usb/devices/" ++ device.info.busId) 256 ++
          (padded device.info.busId 32 ++
            (u32Be ((parseU32 (beforeDash device.info.busId)).getD 1) ++ (u32Be device.info.id ++
              (u32Be (speedCode device.info.speed) ++ (u16Be device.info.vid ++
                (u16Be device.info.pid ++ (u16Be 0x0100 ++
                  [device.info.usbClass, 0, 0, 1, 1, niface]))))))) ∧
      (device.info.interfaces.length ≤ 255 → niface.toNat = (listedInterfaces device).length) := by
  let niface := max device.info.interfaces.length 1
  refine ⟨if niface < 256 then UInt8.ofNat niface else 1, ?_, ?_⟩
  · simp only [encodeDeviceHeader, List.append_assoc, niface]
  intro hifaces
  have hcount : max device.info.interfaces.length 1 = (listedInterfaces device).length := by
    unfold listedInterfaces
    split
    · rename_i hnone
      rw [hnone]
      rfl
    · rename_i hsome
      rw [List.length_map]
      exact Nat.max_eq_left (List.length_pos_iff.mpr hsome)
  have hbyte : niface < 256 := by omega
  rw [if_pos hbyte, UInt8.toNat_ofNat', Nat.mod_eq_of_lt hbyte]
  exact hcount

theorem length_encodeDeviceHeader (device : LocalDevice) :
    (encodeDeviceHeader device).length = 312 := by
  obtain ⟨niface, hheader, -⟩ := encodeDeviceHeader_fields device
  simp [hheader, length_padded]

theorem busid_of_header (device : LocalDevice) :
    slice (encodeDeviceHeader device) 256 32 = busidField device.info.busId := by
  obtain ⟨niface, hheader, -⟩ := encodeDeviceHeader_fields device
  rw [hheader, slice_append_right (by simp [length_padded]), length_padded _ (by decide),
    Nat.sub_self, slice_append_left (length_padded _ (by decide)), padded_busid]

theorem busnum_of_header (device : LocalDevice) :
    slice (encodeDeviceHeader device) 288 4 =
      u32Be ((parseU32 (beforeDash device.info.busId)).getD 1) := by
  obtain ⟨niface, hheader, -⟩ := encodeDeviceHeader_fields device
  rw [hheader, ← List.append_assoc, slice_append_right (by simp [length_padded]),
    List.length_append, length_padded _ (by decide), length_padded _ (by decide), Nat.sub_self,
    slice_append_left (length_u32Be _)]

theorem readInterface_append (triple : InterfaceTriple) (rest : Bytes) :
    readInterface ([triple.1, triple.2.1, triple.2.2, 0] ++ rest) = .ok (triple, rest) :=
  Parser.bind_ok (readBytes_append (n := 4) rfl rest)

theorem encodeInterfaces_eq (device : LocalDevice) :
    encodeInterfaces device =
      (listedInterfaces device).flatMap fun triple => [triple.1, triple.2.1, triple.2.2, 0] := by
  unfold encodeInterfaces listedInterfaces
  split
  · rfl
  · rw [List.flatMap_map]

theorem readDevice_append {device : LocalDevice} (h : device.info.interfaces.length ≤ 255)
    (rest : Bytes) :
    readDevice ((encodeDeviceHeader device ++ encodeInterfaces device) ++ rest) =
      .ok (listedDevice device, rest) := by
  have htriple : ∀ triple ∈ listedInterfaces device, ∀ r,
      readInterface ([triple.1, triple.2.1, triple.2.2, 0] ++ r) = .ok (id triple, r) :=
    fun triple _ => readInterface_append triple
  have hinterfaces := Parser.rep_flatMap htriple rest
  rw [← encodeInterfaces_eq, List.map_id] at hinterfaces
  have hlength := length_encodeDeviceHeader device
  obtain ⟨niface, hheader, hniface⟩ := encodeDeviceHeader_fields device
  rw [List.append_assoc, readDevice, Parser.bind_ok (readBytes_append hlength _)]
  rw [hheader]
  simp (disch := simp [length_padded]) only [slice_append_right, slice_append_left,
    getD_append_right, length_padded, length_u32Be, length_u16Be, Nat.reduceSub, Nat.sub_self]
  have hcount : (List.getD [device.info.usbClass, 0, 0, 1, 1, niface] 5 0).toNat =
      (listedInterfaces device).length := hniface h
  rw [hcount, Parser.bind_ok hinterfaces, padded_busid, ofBe_u32Be, ofBe_u16Be, ofBe_u16Be]
  rfl

/-! ## The whole reply -/

/-- What `ndev` says. -/
def announced (devices : List LocalDevice) : Nat :=
  if devices.length < 2 ^ 32 then devices.length else 0

/-- The records after the header. -/
def deviceRecords (devices : List LocalDevice) : Bytes :=
  devices.flatMap fun device => encodeDeviceHeader device ++ encodeInterfaces device

theorem readDevlist_devlistReply (devices : List LocalDevice) :
    readDevlist (devlistReply devices) =
      readDevice.rep (announced devices) (deviceRecords devices) := by
  have hcount : ∃ ndev : UInt32, ndev.toNat = announced devices ∧
      devlistReply devices = (u16Be USBIP_VERSION ++ u16Be OP_REP_DEVLIST ++ u32Be 0 ++
        u32Be ndev) ++ deviceRecords devices := by
    refine ⟨if devices.length < 2 ^ 32 then UInt32.ofNat devices.length else 0, ?_, rfl⟩
    unfold announced
    split
    · rename_i hcount
      rw [UInt32.toNat_ofNat', Nat.mod_eq_of_lt hcount]
    · rfl
  obtain ⟨ndev, hndev, hreply⟩ := hcount
  have hword : (u16Be USBIP_VERSION ++ u16Be OP_REP_DEVLIST ++ u32Be 0).length = 8 := by simp
  have hheader : (u16Be USBIP_VERSION ++ u16Be OP_REP_DEVLIST ++ u32Be 0 ++ u32Be ndev).length =
      12 := by simp
  have hslice : slice (u16Be USBIP_VERSION ++ u16Be OP_REP_DEVLIST ++ u32Be 0 ++ u32Be ndev) 8 4 =
      u32Be ndev := by
    rw [slice, List.drop_left' hword, List.take_of_length_le (by simp)]
  rw [hreply, readDevlist, Parser.bind_ok (readBytes_append hheader _),
    if_pos (slice_append_left hword _), hslice, ofBe_u32Be, hndev]

/-- The announced devices are read, if they can be announced. -/
theorem readDevlist_of_lt {devices : List LocalDevice} (hcount : devices.length < 2 ^ 32)
    (hifaces : ∀ device ∈ devices, device.info.interfaces.length ≤ 255) :
    readDevlist (devlistReply devices) = .ok (devices.map listedDevice, []) := by
  have hdevices := Parser.rep_flatMap
    (fun device mem => readDevice_append (hifaces device mem)) []
  rw [readDevlist_devlistReply, announced, if_pos hcount, deviceRecords]
  rwa [List.append_nil] at hdevices

/-- Else none is, and all the records are left over. -/
theorem readDevlist_of_ge {devices : List LocalDevice} (hcount : 2 ^ 32 ≤ devices.length) :
    readDevlist (devlistReply devices) = .ok ([], deviceRecords devices) := by
  rw [readDevlist_devlistReply, announced, if_neg (Nat.not_lt.mpr hcount)]
  rfl

/-! ## The two listeners -/

/-- As a client sends it. -/
def devlistRequest : Bytes := u16Be USBIP_VERSION ++ u16Be OP_REQ_DEVLIST ++ u32Be 0

theorem handleClient_devlist {devices : List LocalDevice}
    (hexported : ∀ device ∈ devices, device.info.exported = true) {input rest : Bytes}
    (received : readRequest input = some (.devlist, rest)) (written : List Bytes) :
    LoopbackConn.handleClient devices (.managing input written) .request =
      some (.managing rest (written ++ [devlistReply devices])) := by
  have hdevices := exportedOnly_of_exported hexported
  unfold LoopbackConn.handleClient LoopbackConn.handleClientFiltered
  dsimp only
  rw [received, hdevices, hdevices]

theorem handleForward_devlist {input rest : Bytes}
    (received : readRequest input = some (.devlist, rest)) (devices : List LocalDevice)
    (attached : Except ClientError AttachResponse) (written : List Bytes) :
    ForwardConn.handleForward (.managing input written)
        (.request (.ok { devices := devices.map fun device => device.info }) attached) =
      some (.managing rest (written ++ [devlistReply devices])) := by
  unfold ForwardConn.handleForward
  dsimp only
  rw [received, forwardDevlistReply_eq, devlistReply_emulated]

/-- Both listeners answer a request for the list with the same bytes, and a client reads
them to the end and finds the devices. -/
def DevlistGrammar (devices : List LocalDevice) : Prop :=
  ∃ reply,
    (∀ input rest written, readRequest input = some (.devlist, rest) →
      LoopbackConn.handleClient devices (.managing input written) .request =
        some (.managing rest (written ++ [reply]))) ∧
    (∀ input rest written attached, readRequest input = some (.devlist, rest) →
      ForwardConn.handleForward (.managing input written)
          (.request (.ok { devices := devices.map fun device => device.info }) attached) =
        some (.managing rest (written ++ [reply]))) ∧
    readDevlist reply = .ok (devices.map listedDevice, [])

/-- Of too many devices a client reads none. -/
theorem not_devlistGrammar {devices : List LocalDevice}
    (hexported : ∀ device ∈ devices, device.info.exported = true)
    (hcount : 2 ^ 32 ≤ devices.length) : ¬ DevlistGrammar devices := by
  rintro ⟨reply, hclient, -, hread⟩
  have received : readRequest devlistRequest = some (.devlist, []) := by decide +kernel
  have hstep := hclient _ _ [] received
  rw [handleClient_devlist hexported received, Option.some.injEq] at hstep
  injection hstep with _ hwritten
  injection hwritten with hreply
  rw [← hreply, readDevlist_of_ge hcount, Except.ok.injEq, Prod.mk.injEq] at hread
  have hnone := congrArg List.length hread.1
  rw [List.length_map, List.length_nil] at hnone
  omega

theorem devlist_reply_grammar {devices : List LocalDevice}
    (hexported : ∀ device ∈ devices, device.info.exported = true)
    (hifaces : ∀ device ∈ devices, device.info.interfaces.length ≤ 255)
    (hcount : devices.length < 2 ^ 32) : DevlistGrammar devices :=
  ⟨devlistReply devices,
    fun _ _ written received => handleClient_devlist hexported received written,
    fun _ _ written attached received => handleForward_devlist received devices attached written,
    readDevlist_of_lt hcount hifaces⟩

namespace Sample

/-- An exported device without interfaces. -/
def plainDevice : LocalDevice :=
  { info :=
      { id := 1, busId := "1-1.2", vid := 0x046d, pid := 0xc31c, usbClass := 3, speed := .low
        product := "USB Keyboard", exported := true, interfaces := [] }
    backend := .host }

/-- With it one that has two interfaces, and a bus id that is too long. -/
def plainDevices : List LocalDevice :=
  [plainDevice,
    { plainDevice with
      info :=
        { plainDevice.info with
          busId := "1-1.2.3.4.5.6.7.8.9.10.11.12.13.14"
          interfaces := [⟨0, 3, 1, 1, [0x81]⟩, ⟨1, 3, 0, 0, [0x82]⟩] } }]

/-- One more than four bytes can count. -/
def tooMany : List LocalDevice := List.replicate (2 ^ 32) plainDevice

end Sample

theorem sample_devlist_reply_grammar : DevlistGrammar Sample.plainDevices :=
  devlist_reply_grammar (by decide) (by decide) (by decide)

theorem too_many_devices_unread :
    (∀ device ∈ Sample.tooMany, device.info.exported = true ∧
      device.info.interfaces.length ≤ 255) ∧ ¬ DevlistGrammar Sample.tooMany := by
  have hdevices : ∀ device ∈ Sample.tooMany, device = Sample.plainDevice :=
    fun device => List.eq_of_mem_replicate
  have hexported : ∀ device ∈ Sample.tooMany, device.info.exported = true := by
    intro device mem
    rw [hdevices device mem, Sample.plainDevice]
  refine ⟨?_, not_devlistGrammar hexported (Nat.le_of_eq List.length_replicate.symm)⟩
  intro device mem
  refine ⟨hexported device mem, ?_⟩
  rw [hdevices device mem]
  decide

end FarBus.Core
