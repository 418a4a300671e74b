/-
  Core/Sysfs.lean --- the scan of a sysfs tree of `crates/farbus-core/src/usb.rs`, and
  which of the scanned trees a client can be sent the device list of.

  A directory is its attribute files and its entries, in the order in which `read_dir`
  gives them.  Nothing of what a device says about itself is cut on the way to the wire,
  where a string has one byte for its length.
-/
import Mathlib.Data.List.Sort
import FarBus.Foundation.Text
import FarBus.Core.ExportPolicy
import FarBus.Core.Files
import FarBus.Core.Fingerprint

set_option autoImplicit false

namespace FarBus.Core

open FarBus.Foundation
open FarBus.Protocol

/-! ## A sysfs tree -/

/-- An entry of a directory.  `read` is `fs::read_to_string` of an attribute in it, and
`entries` is `fs::read_dir`, less the entries that could not be read. -/
inductive SysfsEntry where
  | mk (name : String) (isDir : Bool) (read : String → Option String)
      (entries : Option (List SysfsEntry))

namespace SysfsEntry

def name : SysfsEntry → String
  | mk name _ _ _ => name

def isDir : SysfsEntry → Bool
  | mk _ isDir _ _ => isDir

def read : SysfsEntry → String → Option String
  | mk _ _ read _ => read

def entries : SysfsEntry → Option (List SysfsEntry)
  | mk _ _ _ entries => entries

end SysfsEntry

/-! ## Attributes -/

/-- `trim_start_matches("0x")`. -/
def trimStart0x : List Char → List Char
  | '0' :: 'x' :: rest => trimStart0x rest
  | text => text

/-- The digits of `u16::from_str_radix(_, 16)`, most significant first. -/
def wideDigits16 (value : Nat) : Bytes → Option Nat
  | [] => some value
  | byte :: bytes => do
      let digit ← toDigit16 byte
      let value := 16 * value + digit
      if value < 65536 then wideDigits16 value bytes else none

/-- `u16::from_str_radix(_, 16)`, with the signs of `u8::from_str_radix`. -/
def wideFromStrRadix16 (src : Bytes) : Option UInt16 :=
  match src with
  | [] => none
  | [byte] => if byte = 43 ∨ byte = 45 then none else (wideDigits16 0 [byte]).map UInt16.ofNat
  | byte :: bytes =>
      (wideDigits16 0 (if byte = 43 then bytes else byte :: bytes)).map UInt16.ofNat

/-- What both `read_hex_u16` and `read_hex_u8` parse. -/
def hexText (text : String) : Bytes := strBytes (String.ofList (trimStart0x (trim text).toList))

def readHexU16 (dir : SysfsEntry) (file : String) : Option UInt16 := do
  let text ← dir.read file
  wideFromStrRadix16 (hexText text)

def readHexU8 (dir : SysfsEntry) (file : String) : Option UInt8 := do
  let text ← dir.read file
  fromStrRadix16 (hexText text)

/-- `{:04x}`. -/
def hexWord (word : UInt16) : List Char :=
  let n := word.toNat
  [hexDigit (n / 4096), hexDigit (n / 256 % 16), hexDigit (n / 16 % 16), hexDigit (n % 16)]

/-- `str::starts_with`. -/
def startsWith (text start : String) : Bool := start.toList.isPrefixOf text.toList

/-! ## Devices -/

def parseSysfsEndpoints (interfaceDir : SysfsEntry) : Bytes :=
  match interfaceDir.entries with
  | none => []
  | some entries =>
      (entries.filterMap fun entry =>
        if startsWith entry.name "ep_" then readHexU8 entry "bEndpointAddress" else none
      ).insertionSort (· ≤ ·)

/-- One round of the loop of `parse_sysfs_interfaces`. -/
def parseSysfsInterface (busId : String) (entry : SysfsEntry) : Option UsbInterfaceInfo :=
  if ¬ entry.isDir then none
  else if ¬ startsWith entry.name (busId ++ ":") ∨ '.' ∉ entry.name.toList then none
  else do
    let interfaceNumber ← readHexU8 entry "bInterfaceNumber"
    some
      { interfaceNumber
        interfaceClass := (readHexU8 entry "bInterfaceClass").getD 0
        interfaceSubclass := (readHexU8 entry "bInterfaceSubClass").getD 0
        interfaceProtocol := (readHexU8 entry "bInterfaceProtocol").getD 0
        endpoints := parseSysfsEndpoints entry }

def parseSysfsInterfaces (deviceDir : SysfsEntry) (busId : String) : List UsbInterfaceInfo :=
  match deviceDir.entries with
  | none => []
  | some entries =>
      (entries.filterMap (parseSysfsInterface busId)).insertionSort
        fun a b => a.interfaceNumber ≤ b.interfaceNumber

/-- The product name: what the device says, or its numbers. -/
def parseSysfsProduct (dir : SysfsEntry) (vid pid : UInt16) : String :=
  (((dir.read "product").map trim).filter fun s => s ≠ "").getD
    (String.ofList (hexWord vid ++ ':' :: hexWord pid))

def parseSysfsSpeed (dir : SysfsEntry) : UsbSpeed :=
  match (dir.read "speed").map trim with
  | none => .high
  | some speed =>
      if speed = "1.5" then .low
      else if speed = "12" then .full
      else if speed = "5000" ∨ speed = "10000" ∨ speed = "20000" then .super
      else .high

def parseSysfsDevice (dir : SysfsEntry) (id : DeviceId) : Option LocalDevice := do
  let vid ← readHexU16 dir "idVendor"
  let pid ← readHexU16 dir "idProduct"
  let usbClass := (readHexU8 dir "bDeviceClass").getD 0
  let product := parseSysfsProduct dir vid pid
  let speed := parseSysfsSpeed dir
  let busId := dir.name
  if '-' ∉ busId.toList then none
  else
    let interfaces := parseSysfsInterfaces dir busId
    let interfaces :=
      if interfaces = [] ∧ usbClass ≠ 0 then
        [{ interfaceNumber := 0, interfaceClass := usbClass, interfaceSubclass := 0,
           interfaceProtocol := 0, endpoints := [] }]
      else interfaces
    some
      { info :=
          { id, busId, vid, pid, usbClass, speed, product, exported := false, interfaces }
        backend := .host }

/-- The loop of `scan_sysfs` over the entries that are left. -/
def scanEntries (nextId : UInt32) : List SysfsEntry → List LocalDevice
  | [] => []
  | entry :: entries =>
      if ¬ entry.isDir then scanEntries nextId entries
      else
        match parseSysfsDevice entry nextId with
        | some device => device :: scanEntries (nextId + 1) entries
        | none => scanEntries nextId entries

def scanSysfs (root : SysfsEntry) : List LocalDevice :=
  match root.entries with
  | none => []
  | some entries => scanEntries 1 entries

/-- A choice of devices is exported. -/
def markExported (exported : LocalDevice → Bool) (devices : List LocalDevice) :
    List LocalDevice :=
  devices.map fun device => { device with info := { device.info with exported := exported device } }

/-! ## What a scan returns -/

/-- A parsed device has the id it was parsed with and the product name of its directory. -/
theorem parseSysfsDevice_spec {dir : SysfsEntry} {id : DeviceId} {device : LocalDevice}
    (h : parseSysfsDevice dir id = some device) :
    device.info.id = id ∧
      device.info.product = parseSysfsProduct dir device.info.vid device.info.pid := by
  unfold parseSysfsDevice at h
  simp only [Option.bind_eq_bind, Option.bind_eq_some_iff] at h
  obtain ⟨vid, -, pid, -, h⟩ := h
  split at h
  · cases h
  · cases h
    exact ⟨rfl, rfl⟩

theorem parseSysfsDevice_scanned {entries : List SysfsEntry} {nextId : UInt32}
    {device : LocalDevice} (mem : device ∈ scanEntries nextId entries) :
    ∃ entry ∈ entries, parseSysfsDevice entry device.info.id = some device := by
  induction entries generalizing nextId with
  | nil => cases mem
  | cons entry entries ih =>
      have hlater : ∀ {nextId : UInt32}, device ∈ scanEntries nextId entries →
          ∃ entry' ∈ entry :: entries, parseSysfsDevice entry' device.info.id = some device := by
        intro nextId mem
        obtain ⟨found, hfound, hparse⟩ := ih mem
        exact ⟨found, List.mem_cons_of_mem _ hfound, hparse⟩
      unfold scanEntries at mem
      split at mem
      · exact hlater mem
      · split at mem
        · rename_i first hfirst
          rcases List.mem_cons.mp mem with rfl | mem
          · exact ⟨entry, List.mem_cons_self, by rw [(parseSysfsDevice_spec hfirst).1, hfirst]⟩
          · exact hlater mem
        · exact hlater mem

/-- The ids of a scan count up, as long as the counter does not wrap. -/
theorem scanEntries_ids {entries : List SysfsEntry} {nextId : UInt32}
    (h : nextId.toNat + (scanEntries nextId entries).length ≤ 2 ^ 32) :
    (scanEntries nextId entries).map (fun device => device.info.id.toNat) =
      List.range' nextId.toNat (scanEntries nextId entries).length := by
  induction entries generalizing nextId with
  | nil => rfl
  | cons entry entries ih =>
      unfold scanEntries at h ⊢
      split
      · rename_i hfile
        rw [if_pos hfile] at h
        exact ih h
      · rename_i hdir
        rw [if_neg hdir] at h
        split
        · rename_i device hdevice
          simp only [hdevice, List.length_cons] at h
          by_cases hlast : (scanEntries (nextId + 1) entries).length = 0
          · rw [List.length_eq_zero_iff] at hlast
            rw [hlast, List.map_cons, (parseSysfsDevice_spec hdevice).1]
            rfl
          · have hnext : (nextId + 1).toNat = nextId.toNat + 1 := by
              rw [UInt32.toNat_add]
              exact Nat.mod_eq_of_lt (by have : (1 : UInt32).toNat = 1 := rfl; omega)
            rw [List.map_cons, ih (by omega), List.length_cons, List.range'_succ, hnext,
              (parseSysfsDevice_spec hdevice).1]
        · rename_i hnone
          simp only [hnone] at h
          exact ih h

/-- A scan of a few devices of a usual size. -/
structure ScanFits (devices : List LocalDevice) : Prop where
  count : devices.length ≤ 16
  busId : ∀ device ∈ devices, device.info.busId.utf8ByteSize ≤ 31
  interfaces : ∀ device ∈ devices, device.info.interfaces.length ≤ 8
  endpoints : ∀ device ∈ devices, ∀ iface ∈ device.info.interfaces, iface.endpoints.length ≤ 30

theorem ScanFits.ids {root : SysfsEntry} (h : ScanFits (scanSysfs root)) :
    (∀ device ∈ scanSysfs root, device.info.id ≠ 0) ∧
      ((scanSysfs root).map fun device => device.info.id).Nodup := by
  have hids : (scanSysfs root).map (fun device => device.info.id.toNat) =
      List.range' 1 (scanSysfs root).length := by
    have hcount := h.count
    unfold scanSysfs at hcount ⊢
    split
    · rfl
    · rename_i entries hentries
      simp only [hentries] at hcount
      exact scanEntries_ids (by have : (1 : UInt32).toNat = 1 := rfl; omega)
  constructor
  · intro device mem hzero
    have hid := List.mem_map_of_mem (f := fun device : LocalDevice => device.info.id.toNat) mem
    rw [hids, List.mem_range'_1, hzero] at hid
    exact absurd hid.1 (by decide)
  · refine List.Nodup.of_map UInt32.toNat ?_
    rw [List.map_map]
    show ((scanSysfs root).map fun device => device.info.id.toNat).Nodup
    rw [hids]
    exact List.nodup_range'

/-! ## The product name -/

theorem utf8ByteSize_hexWords_le (vid pid : UInt16) :
    (String.ofList (hexWord vid ++ ':' :: hexWord pid)).utf8ByteSize ≤ 36 := by
  rw [String.utf8ByteSize_ofList]
  exact utf8Len_le _

theorem trim_replicate (n : Nat) {c : Char} (h : isWhitespace c = false) :
    trim (String.ofList (List.replicate n c)) = String.ofList (List.replicate n c) := by
  apply trim_eq_self
  intro d mem
  rw [String.toList_ofList] at mem
  rw [List.eq_of_mem_replicate mem, h]

/-- The product file of a directory, trimmed, fits the wire. -/
def ProductFits (dir : SysfsEntry) : Prop :=
  ∀ text, dir.read "product" = some text → (trim text).utf8ByteSize ≤ 255

theorem parseSysfsProduct_fits_iff (dir : SysfsEntry) (vid pid : UInt16) :
    (parseSysfsProduct dir vid pid).utf8ByteSize ≤ 255 ↔ ProductFits dir := by
  have hwords := utf8ByteSize_hexWords_le vid pid
  unfold parseSysfsProduct ProductFits
  cases dir.read "product" with
  | none => simpa using Nat.le_trans hwords (by decide)
  | some text =>
      by_cases hempty : trim text = ""
      · simpa [hempty, Option.filter] using Nat.le_trans hwords (by decide)
      · simp [hempty, Option.filter]

/-! ## The list on the wire -/

theorem length_flatMap_le {α : Type} {f : α → Bytes} {k : Nat} {items : List α}
    (h : ∀ item ∈ items, (f item).length ≤ k) : (items.flatMap f).length ≤ items.length * k := by
  induction items with
  | nil => exact Nat.zero_le _
  | cons item items ih =>
      obtain ⟨hitem, hitems⟩ := List.forall_mem_cons.mp h
      have hlength := ih hitems
      rw [List.flatMap_cons, List.length_append, List.length_cons, Nat.succ_mul]
      omega

theorem length_deviceBytes_le {device : DeviceInfo} (hbus : device.busId.utf8ByteSize ≤ 31)
    (hproduct : device.product.utf8ByteSize ≤ 255) (hifaces : device.interfaces.length ≤ 8)
    (hendpoints : ∀ iface ∈ device.interfaces, iface.endpoints.length ≤ 30) :
    (deviceBytes device).length ≤ 580 := by
  have hiface : ∀ iface ∈ device.interfaces, (interfaceBytes iface).length ≤ 35 := by
    intro iface mem
    have hlength := hendpoints iface mem
    simp only [interfaceBytes, List.length_append, List.length_cons, List.length_nil]
    omega
  have hlength := length_flatMap_le hiface
  simp only [deviceBytes, u8StrBytes, List.length_append, List.length_cons, List.length_nil,
    length_u32Be, length_u16Be, length_strBytes]
  omega

/-- A short list of small devices is refused for a product name only. -/
theorem encodes_deviceList_iff {list : DeviceList} (hcount : list.devices.length ≤ 16)
    (hbus : ∀ device ∈ list.devices, device.busId.utf8ByteSize ≤ 31)
    (hifaces : ∀ device ∈ list.devices, device.interfaces.length ≤ 8)
    (hendpoints : ∀ device ∈ list.devices, ∀ iface ∈ device.interfaces,
      iface.endpoints.length ≤ 30) :
    (∃ frame, encode (.deviceList list) = .ok frame) ↔
      ∀ device ∈ list.devices, device.product.utf8ByteSize ≤ 255 := by
  constructor
  · intro h device mem
    obtain ⟨frame, hframe⟩ := h
    exact (((encode_eq_ok_iff _ _).mp hframe).1.fields.2 device mem).product
  · intro h
    have hfits : FieldsFit (.deviceList list) := by
      refine ⟨by omega, ?_⟩
      intro device mem
      have hiface := hifaces device mem
      exact ⟨Nat.le_trans (hbus device mem) (by decide), h device mem, by omega,
        fun iface hmem => Nat.le_trans (hendpoints device mem iface hmem) (by decide)⟩
    have hlength : (list.devices.flatMap deviceBytes).length ≤ list.devices.length * 580 :=
      length_flatMap_le fun device mem => length_deviceBytes_le (hbus device mem) (h device mem) (hifaces device mem)
        (hendpoints device mem)
    have hpayload : (payloadBytes (.deviceList list)).length ≤ MAX_PAYLOAD := by
      rw [payloadBytes, List.length_append, length_u16Be]
      unfold MAX_PAYLOAD
      omega
    exact ⟨_, (encode_eq_ok_iff _ _).mpr ⟨⟨hfits, hpayload⟩, rfl⟩⟩

section

variable (platform : Platform) (hostname : String) (fingerprint : PeerFingerprint) (now : Instant)
  (draw : PinDraw)

/-- A server over the devices of a scan, some of them exported. -/
def scannedServer (root : SysfsEntry) (exported : LocalDevice → Bool) : ServerState :=
  .new platform hostname fingerprint (markExported exported (scanSysfs root)) now draw

variable {root : SysfsEntry} (exported : LocalDevice → Bool)

theorem markExported_ids (hscan : ScanFits (scanSysfs root)) :
    (∀ device ∈ markExported exported (scanSysfs root), device.info.id ≠ 0) ∧
      ((markExported exported (scanSysfs root)).map fun device => device.info.id).Nodup := by
  obtain ⟨hid, hids⟩ := hscan.ids
  constructor
  · intro device mem
    obtain ⟨found, hfound, rfl⟩ := List.mem_map.mp mem
    exact hid found hfound
  · rw [markExported, List.map_map]
    exact hids

theorem mem_scanned_deviceList (hscan : ScanFits (scanSysfs root)) (info : DeviceInfo) :
    info ∈ (scannedServer platform hostname fingerprint now draw root exported).deviceList.devices ↔
      ∃ device ∈ scanSysfs root, exported device = true ∧
        info = { device.info with exported := true } := by
  obtain ⟨hid, hids⟩ := markExported_ids exported hscan
  have hmem := DeviceInventory.mem_snapshot_new hid hids
  unfold ServerState.deviceList
  simp only [List.mem_map, List.mem_filter]
  constructor
  · rintro ⟨marked, ⟨mem, hexported⟩, rfl⟩
    obtain ⟨device, hdevice, rfl⟩ := List.mem_map.mp ((hmem marked).mp mem)
    refine ⟨device, hdevice, hexported, ?_⟩
    rw [← show exported device = true from hexported]
  · rintro ⟨device, hdevice, hexported, rfl⟩
    refine ⟨{ device with info := { device.info with exported := true } }, ⟨?_, rfl⟩, rfl⟩
    refine (hmem _).mpr (List.mem_map.mpr ⟨device, hdevice, ?_⟩)
    rw [hexported]

theorem encodes_scanned_iff (hscan : ScanFits (scanSysfs root)) :
    (∃ frame, encode (.deviceList
        (scannedServer platform hostname fingerprint now draw root exported).deviceList) =
      .ok frame) ↔
      ∀ device ∈ scanSysfs root, exported device = true →
        device.info.product.utf8ByteSize ≤ 255 := by
  have hmem := mem_scanned_deviceList platform hostname fingerprint now draw exported hscan
  have hcount : (scannedServer platform hostname fingerprint now draw root
      exported).deviceList.devices.length ≤ 16 := by
    obtain ⟨hid, hids⟩ := markExported_ids exported hscan
    have hsnapshot := DeviceInventory.length_snapshot_new_le hid hids
    rw [markExported, List.length_map] at hsnapshot
    rw [ServerState.deviceList, List.length_map]
    exact Nat.le_trans (List.length_filter_le _ _) (Nat.le_trans hsnapshot hscan.count)
  rw [encodes_deviceList_iff hcount]
  · constructor
    · intro h device mem hexported
      exact h { device.info with exported := true }
        ((hmem _).mpr ⟨device, mem, hexported, rfl⟩)
    · intro h info mem
      obtain ⟨device, hdevice, hexported, rfl⟩ := (hmem info).mp mem
      exact h device hdevice hexported
  · intro info mem
    obtain ⟨device, hdevice, -, rfl⟩ := (hmem info).mp mem
    exact hscan.busId device hdevice
  · intro info mem
    obtain ⟨device, hdevice, -, rfl⟩ := (hmem info).mp mem
    exact hscan.interfaces device hdevice
  · intro info mem
    obtain ⟨device, hdevice, -, rfl⟩ := (hmem info).mp mem
    exact hscan.endpoints device hdevice

/-- The entry is the directory of a device that is exported. -/
def Exports (root : SysfsEntry) (exported : LocalDevice → Bool) (entry : SysfsEntry) : Prop :=
  (∃ entries, root.entries = some entries ∧ entry ∈ entries) ∧
    ∃ device ∈ scanSysfs root, exported device = true ∧
      parseSysfsDevice entry device.info.id = some device

/-- One long product name takes the whole list with it. -/
theorem scanned_list_fits_iff (hscan : ScanFits (scanSysfs root)) :
    (∃ frame, encode (.deviceList
        (scannedServer platform hostname fingerprint now draw root exported).deviceList) =
      .ok frame) ↔
      ∀ entry, Exports root exported entry → ProductFits entry := by
  rw [encodes_scanned_iff platform hostname fingerprint now draw exported hscan]
  constructor
  · intro h entry hentry
    obtain ⟨-, device, hdevice, hexported, hparse⟩ := hentry
    have hproduct := h device hdevice hexported
    rwa [(parseSysfsDevice_spec hparse).2, parseSysfsProduct_fits_iff] at hproduct
  · intro h device mem hexported
    have hscanned : ∃ entries, root.entries = some entries ∧ device ∈ scanEntries 1 entries := by
      unfold scanSysfs at mem
      split at mem
      · cases mem
      · exact ⟨_, ‹_›, mem⟩
    obtain ⟨entries, hentries, hlisted⟩ := hscanned
    obtain ⟨entry, hentry, hparse⟩ := parseSysfsDevice_scanned hlisted
    rw [(parseSysfsDevice_spec hparse).2, parseSysfsProduct_fits_iff]
    exact h entry ⟨⟨entries, hentries, hentry⟩, device, mem, hexported, hparse⟩

end

namespace Sample

def mouseEndpoint : SysfsEntry :=
  .mk "ep_81" true (fun file => if file = "bEndpointAddress" then some "81\n" else none) none

def mouseInterface : SysfsEntry :=
  .mk "1-2:1.0" true
    (fun file =>
      if file = "bInterfaceNumber" then some "00\n"
      else if file = "bInterfaceClass" then some "03\n"
      else none)
    (some [mouseEndpoint])

/-- A mouse, with its product file. -/
def mouseDir (product : String) : SysfsEntry :=
  .mk "1-2" true
    (fun file =>
      if file = "idVendor" then some "046d\n"
      else if file = "idProduct" then some "c077\n"
      else if file = "product" then some product
      else none)
    (some [mouseInterface])

def mouseBus (product : String) : SysfsEntry :=
  .mk "devices" true (fun _ => none) (some [mouseDir product])

/-- What the scan makes of it. -/
def mouse (product : String) : LocalDevice :=
  { info :=
      { id := 1, busId := "1-2", vid := 0x046d, pid := 0xc077, usbClass := 0, speed := .high
        product := parseSysfsProduct (mouseDir product) 0x046d 0xc077
        exported := false
        interfaces :=
          [{ interfaceNumber := 0, interfaceClass := 3, interfaceSubclass := 0,
             interfaceProtocol := 0, endpoints := [0x81] }] }
    backend := .host }

theorem mouse_product (product : String) :
    (mouse product).info.product = parseSysfsProduct (mouseDir product) 0x046d 0xc077 := rfl

theorem read_product_mouseDir (product : String) :
    (mouseDir product).read "product" = some product := by
  simp [mouseDir, SysfsEntry.read]

theorem parseSysfsDevice_mouseDir (product : String) :
    parseSysfsDevice (mouseDir product) 1 = some (mouse product) := by
  have hvid : readHexU16 (mouseDir product) "idVendor" = some 0x046d := by
    have hdigits : wideFromStrRadix16 (hexText "046d\n") = some 0x046d := by decide +kernel
    simp [readHexU16, mouseDir, SysfsEntry.read, hdigits]
  have hpid : readHexU16 (mouseDir product) "idProduct" = some 0xc077 := by
    have hdigits : wideFromStrRadix16 (hexText "c077\n") = some 0xc077 := by decide +kernel
    simp [readHexU16, mouseDir, SysfsEntry.read, hdigits]
  have hclass : readHexU8 (mouseDir product) "bDeviceClass" = none := by
    simp [readHexU8, mouseDir, SysfsEntry.read]
  have hspeed : parseSysfsSpeed (mouseDir product) = .high := by
    simp [parseSysfsSpeed, mouseDir, SysfsEntry.read]
  have hinterface : parseSysfsInterface "1-2" mouseInterface =
      some ⟨0, 3, 0, 0, [0x81]⟩ := by decide +kernel
  have hinterfaces : parseSysfsInterfaces (mouseDir product) "1-2" = [⟨0, 3, 0, 0, [0x81]⟩] := by
    simp [parseSysfsInterfaces, mouseDir, SysfsEntry.entries, hinterface]
  have hname : (mouseDir product).name = "1-2" := rfl
  simp only [parseSysfsDevice, hvid, hpid, hclass, hspeed, hname, hinterfaces]
  rfl

theorem scanSysfs_mouseBus (product : String) : scanSysfs (mouseBus product) = [mouse product] := by
  have hentries : (mouseBus product).entries = some [mouseDir product] := rfl
  simp only [scanSysfs, hentries, scanEntries, parseSysfsDevice_mouseDir]
  rfl

theorem scanFits_mouseBus (product : String) : ScanFits (scanSysfs (mouseBus product)) := by
  rw [scanSysfs_mouseBus]
  refine ⟨Nat.le_add_left 1 15, ?_, ?_, ?_⟩
  · intro device mem
    rw [List.mem_singleton.mp mem]
    exact show "1-2".utf8ByteSize ≤ 31 by decide
  · intro device mem
    rw [List.mem_singleton.mp mem]
    exact Nat.le_add_left 1 7
  · intro device mem iface hiface
    rw [List.mem_singleton.mp mem] at hiface
    rw [List.mem_singleton.mp hiface]
    exact Nat.le_add_left 1 29

/-- As long as a USB string descriptor can be, three bytes to a character. -/
def longProduct : String := String.ofList (List.replicate 126 '中')

end Sample

theorem sample_scanned_list_fits :
    ∃ frame, encode (.deviceList (scannedServer Sample.platform "server" Sample.serverFingerprint 0
      0 (Sample.mouseBus "Mouse\n") fun _ => true).deviceList) = .ok frame := by
  refine (scanned_list_fits_iff _ _ _ _ _ _ (Sample.scanFits_mouseBus _)).mpr ?_
  rintro entry ⟨⟨entries, hentries, mem⟩, -⟩
  cases hentries
  rw [List.mem_singleton.mp mem]
  intro text htext
  rw [Sample.read_product_mouseDir, Option.some.injEq] at htext
  rw [← htext]
  decide +kernel

theorem long_product_refused :
    ScanFits (scanSysfs (Sample.mouseBus Sample.longProduct)) ∧
      ¬ ∃ frame, encode (.deviceList (scannedServer Sample.platform "server"
        Sample.serverFingerprint 0 0 (Sample.mouseBus Sample.longProduct) fun _ => true).deviceList) =
          .ok frame := by
  refine ⟨Sample.scanFits_mouseBus _, ?_⟩
  rw [encodes_scanned_iff _ _ _ _ _ _ (Sample.scanFits_mouseBus _), Sample.scanSysfs_mouseBus]
  intro h
  have hproduct := h (Sample.mouse Sample.longProduct) List.mem_cons_self rfl
  rw [Sample.mouse_product, parseSysfsProduct_fits_iff] at hproduct
  have hfits := hproduct _ (Sample.read_product_mouseDir _)
  unfold Sample.longProduct at hfits
  rw [trim_replicate _ (by rfl), utf8ByteSize_replicate] at hfits
  exact absurd hfits (by decide)

end FarBus.Core
