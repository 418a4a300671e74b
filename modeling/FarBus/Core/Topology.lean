/-
  Core/Topology.lean --- the bus ids of host devices, `topology_bus_id` of
  `crates/farbus-core/src/host_usb.rs`, and how a USB/IP client gets from a listed bus id
  back to its device.

  A bus id is the bus number and the ports on the way to the device, in decimal.  It can
  take 31 bytes, which is as much as the field of a record keeps of it.
-/
import FarBus.Foundation.Text
import FarBus.Core.UsbipDevlist

set_option autoImplicit false

namespace FarBus.Core

open FarBus.Foundation
open FarBus.Protocol

/-! ## Bus ids -/

/-- Where a device is, as `rusb` reports it. -/
@[ext]
structure Topology where
  bus : UInt8
  ports : List UInt8
  nonempty : ports ≠ []
  short : ports.length ≤ 7
  deriving DecidableEq, Repr

def Topology.busId (topology : Topology) : String := topologyBusId topology.bus topology.ports

/-- The ports, one after the other. -/
def portPath (ports : List UInt8) : List Char :=
  ['.'].intercalate (ports.map fun port => (toString port.toNat).toList)

theorem topologyBusId_eq (bus : UInt8) (ports : List UInt8) :
    topologyBusId bus ports = toString bus.toNat ++ "-" ++
      ".".intercalate (ports.map fun port => toString port.toNat) := rfl

theorem toList_topologyBusId (bus : UInt8) (ports : List UInt8) :
    (topologyBusId bus ports).toList = (toString bus.toNat).toList ++ '-' :: portPath ports := by
  rw [topologyBusId_eq, String.toList_append, String.toList_append, String.toList_intercalate, List.map_map,
    List.append_assoc]
  rfl

/-! ## What stands before the dash -/

theorem beforeDash_topologyBusId (bus : UInt8) (ports : List UInt8) :
    beforeDash (topologyBusId bus ports) = toString bus.toNat := by
  have hdash : ∀ c ∈ (toString bus.toNat).toList, (c ≠ '-' : Bool) = true := by
    intro c mem
    have hne : c ≠ '-' := fun heq => not_mem_toString bus.toNat (by rfl) (heq ▸ mem)
    simpa using hne
  rw [beforeDash, toList_topologyBusId, List.takeWhile_append_of_pos hdash,
    List.takeWhile_cons_of_neg (by simp), List.append_nil, String.ofList_toList]

theorem parseU32_toString {n : Nat} (h : n < 2 ^ 32) :
    parseU32 (toString n) = some (UInt32.ofNat n) := by
  have hdigits : ∀ c ∈ (toString n).toList, c.isDigit = true := fun c => isDigit_of_mem_toString
  have hvalue := ofDigitChars_toString n
  have hnonempty : (toString n).toList ≠ [] := by
    rw [Nat.toString_eq_ofList_toDigits, String.toList_ofList]
    exact Nat.toDigits_ne_nil
  unfold parseU32
  cases hchars : (toString n).toList with
  | nil => exact absurd hchars hnonempty
  | cons c cs =>
      rw [hchars] at hdigits hvalue
      have hplus : c ≠ '+' := by
        rintro rfl
        exact absurd (hdigits _ List.mem_cons_self) (by decide)
      have hall : (c :: cs).any (fun c => !c.isDigit) = false := by
        rw [List.any_eq_false]
        intro d mem
        rw [hdigits d mem]
        decide
      split
      · rename_i heq
        injection heq with hc
        exact absurd hc hplus
      · rw [Nat.ofDigitChars_eq_foldl] at hvalue
        simp only [hall, reduceCtorEq, Bool.false_eq_true, or_self, if_false]
        rw [hvalue, if_pos h]

/-- The bus number of the record is that of the bus id. -/
theorem busnum_of_topology (topology : Topology) :
    parseU32 (beforeDash topology.busId) = some (UInt32.ofNat topology.bus.toNat) := by
  rw [Topology.busId, beforeDash_topologyBusId]
  exact parseU32_toString (Nat.lt_trans topology.bus.toNat_lt (by decide))

/-! ## A bus id tells its topology -/

theorem portPath_injective {ports ports' : List UInt8} (hports : ports ≠ []) (hports' : ports' ≠ [])
    (h : portPath ports = portPath ports') : ports = ports' := by
  have hsplit : ∀ {ports : List UInt8}, ports ≠ [] →
      (portPath ports).splitOn '.' = ports.map fun port => (toString port.toNat).toList := by
    intro ports hports
    refine List.splitOn_intercalate '.' ?_ (by simpa using hports)
    intro digits mem
    obtain ⟨port, -, rfl⟩ := List.mem_map.mp mem
    exact not_mem_toString port.toNat (by rfl)
  have hpieces := hsplit hports
  rw [h, hsplit hports'] at hpieces
  refine (List.map_injective_iff.mpr ?_ hpieces).symm
  intro port port' heq
  exact UInt8.toNat_inj.mp (toString_nat_injective (String.toList_inj.mp heq))

theorem Topology.busId_injective : Function.Injective Topology.busId := by
  intro t t' h
  have hbus : t.bus = t'.bus := by
    have hbefore := congrArg beforeDash h
    rw [Topology.busId, Topology.busId, beforeDash_topologyBusId, beforeDash_topologyBusId]
      at hbefore
    exact UInt8.toNat_inj.mp (toString_nat_injective hbefore)
  have hchars := congrArg String.toList h
  rw [Topology.busId, Topology.busId, toList_topologyBusId, toList_topologyBusId, hbus] at hchars
  have hports := portPath_injective t.nonempty t'.nonempty
    (List.cons.inj (List.append_cancel_left hchars)).2
  exact Topology.ext hbus hports

/-! ## The length of a bus id -/

theorem utf8ByteSize_port_le (port : UInt8) : (toString port.toNat).utf8ByteSize ≤ 3 :=
  utf8ByteSize_toString_le (by decide) (Nat.lt_trans port.toNat_lt (by decide))

theorem Topology.utf8ByteSize_busId_le (topology : Topology) :
    topology.busId.utf8ByteSize ≤ 31 := by
  have hbus := utf8ByteSize_port_le topology.bus
  have hsum : ∀ ports : List UInt8, ((ports.map fun port => toString port.toNat).map
      String.utf8ByteSize).sum ≤ 3 * ports.length := by
    intro ports
    induction ports with
    | nil => exact Nat.le_refl _
    | cons port ports ih =>
        have hport := utf8ByteSize_port_le port
        rw [List.map_cons, List.map_cons, List.sum_cons, List.length_cons]
        omega
  have hports := hsum topology.ports
  have hshort := topology.short
  have hdash : "-".utf8ByteSize = 1 := by decide
  have hdot : ".".utf8ByteSize = 1 := by decide
  rw [Topology.busId, topologyBusId_eq, String.utf8ByteSize_append, String.utf8ByteSize_append,
    utf8ByteSize_intercalate, List.length_map, hdash, hdot]
  omega

/-! ## The field of a record, read back -/

/-- A bus id has digits, dots and the dash. -/
theorem Topology.no_nul (topology : Topology) :
    ∀ c ∈ topology.busId.toList, c ≠ Char.ofNat 0 := by
  intro c mem
  have hdigits : ∀ n : Nat, c ∈ (toString n).toList → c ≠ Char.ofNat 0 := fun n hn heq =>
    not_mem_toString n (by rfl) (heq ▸ hn)
  rw [Topology.busId, toList_topologyBusId, List.mem_append, List.mem_cons] at mem
  rcases mem with hbus | rfl | hports
  · exact hdigits _ hbus
  · decide
  · rcases mem_intercalate hports with hdot | ⟨piece, hpiece, mem⟩
    · rw [List.mem_singleton.mp hdot]
      decide
    · obtain ⟨port, -, rfl⟩ := List.mem_map.mp hpiece
      exact hdigits _ mem

theorem trimNuls_append {s : String} (h : ∀ c ∈ s.toList, c ≠ Char.ofNat 0) (n : Nat) :
    trimNuls (s ++ String.ofList (List.replicate n (Char.ofNat 0))) = s := by
  have hkept : s.toList.rdropWhile (fun c => c = Char.ofNat 0) = s.toList := by
    rw [List.rdropWhile_eq_self_iff]
    intro hne
    simpa using h _ (List.getLast_mem hne)
  rw [trimNuls, String.toList_append, String.toList_ofList, List.rdropWhile, List.reverse_append,
    List.dropWhile_append_of_pos (by simp), ← List.rdropWhile, hkept,
    String.ofList_toList]

/-- The field keeps a short bus id whole. -/
theorem requestedBusId_busidField {busId : String} (hlength : busId.utf8ByteSize ≤ 31)
    (hnul : ∀ c ∈ busId.toList, c ≠ Char.ofNat 0) :
    requestedBusId (busidField busId) = busId := by
  let nuls := String.ofList (List.replicate (32 - busId.utf8ByteSize) (Char.ofNat 0))
  have hnuls : strBytes nuls = List.replicate (32 - busId.utf8ByteSize) 0 := by
    have hchar : String.utf8EncodeChar (Char.ofNat 0) = [0] := by rfl
    rw [strBytes_ofList, List.flatMap_replicate, hchar, List.flatten_replicate_singleton]
  have hkept : (strBytes busId).take 31 = strBytes busId := by
    rw [List.take_of_length_le]
    exact hlength
  have hfield : busidField busId = strBytes (busId ++ nuls) := by
    rw [strBytes_append, hnuls, busidField, hkept, length_strBytes, ← List.replicate_succ]
    congr 2
    omega
  have hread := (fromUtf8_eq_ok_iff (busidField busId) (busId ++ nuls)).mpr hfield
  rw [requestedBusId, hread]
  exact trimNuls_append hnul _

theorem length_busidField (busId : String) : (busidField busId).length = 32 := by
  simp only [busidField, List.length_append, List.length_cons, List.length_replicate,
    List.length_take]
  omega

/-! ## The import -/

/-- The devices have the bus ids of these places. -/
def PlacedAt (devices : List LocalDevice) (topologies : List Topology) : Prop :=
  devices.map (fun device => device.info.busId) = topologies.map Topology.busId

/-- What a client sends back of the record it was listed. -/
def listedBusid (device : LocalDevice) : Bytes := slice (encodeDeviceHeader device) 256 32

section

variable {devices : List LocalDevice} {topologies : List Topology}

theorem PlacedAt.nodup (h : PlacedAt devices topologies) (hdistinct : topologies.Nodup) :
    (devices.map fun device => device.info.busId).Nodup := by
  rw [h]
  exact hdistinct.map Topology.busId_injective

theorem PlacedAt.requested (h : PlacedAt devices topologies) {device : LocalDevice}
    (mem : device ∈ devices) : requestedBusId (listedBusid device) = device.info.busId := by
  have hplace : device.info.busId ∈ topologies.map Topology.busId :=
    h ▸ List.mem_map_of_mem mem
  obtain ⟨topology, -, hbusId⟩ := List.mem_map.mp hplace
  rw [listedBusid, busid_of_header, ← hbusId]
  exact requestedBusId_busidField topology.utf8ByteSize_busId_le topology.no_nul

theorem findByBusId_of_nodup (h : (devices.map fun device => device.info.busId).Nodup)
    {device : LocalDevice} (mem : device ∈ devices) :
    findByBusId devices device.info.busId = some device := by
  unfold findByBusId
  cases hfind : devices.find? fun other => other.info.busId = device.info.busId with
  | none =>
      rw [List.find?_eq_none] at hfind
      exact absurd (decide_eq_true rfl) (hfind device mem)
  | some found =>
      have hsame := List.find?_some hfind
      exact congrArg some (List.inj_on_of_nodup_map h (List.mem_of_find?_eq_some hfind) mem
        (of_decide_eq_true hsame))

theorem length_listedBusid (device : LocalDevice) : (listedBusid device).length = 32 := by
  rw [listedBusid, busid_of_header, length_busidField]

theorem handleClient_listed (h : PlacedAt devices topologies) (hdistinct : topologies.Nodup)
    {device : LocalDevice} (mem : device ∈ LoopbackConn.exportedOnly devices) (rest : Bytes)
    (written : List Bytes) :
    LoopbackConn.handleClient devices
        (.managing (importRequest (listedBusid device) ++ rest) written) .request =
      some (.serving device (written ++ [importReply (some device)]) { input := rest }) := by
  have hnodup : ((LoopbackConn.exportedOnly devices).map fun device => device.info.busId).Nodup :=
    (h.nodup hdistinct).sublist (List.filter_sublist.map _)
  unfold LoopbackConn.handleClient LoopbackConn.handleClientFiltered
  rw [LoopbackConn.exportedOnly_exportedOnly]
  dsimp only
  rw [readRequest_importRequest (length_listedBusid device)]
  dsimp only
  rw [h.requested (List.mem_of_mem_filter mem), findByBusId_of_nodup hnodup mem]

theorem handleForward_listed (h : PlacedAt devices topologies) (hdistinct : topologies.Nodup)
    {device : LocalDevice} (mem : device ∈ devices) (rest : Bytes) (written : List Bytes)
    (response : AttachResponse) :
    ForwardConn.handleForward (.managing (importRequest (listedBusid device) ++ rest) written)
        (.request (.ok { devices := devices.map fun device => device.info }) (.ok response)) =
      some (.serving { device with backend := .emulated }
        (written ++ [importReply (some device)]) { input := rest }) := by
  let emulated := fun device : LocalDevice => { device with backend := DeviceBackend.emulated }
  have hnodup : ((devices.map emulated).map fun device => device.info.busId).Nodup := by
    rw [List.map_map]
    exact h.nodup hdistinct
  have hfound := findByBusId_of_nodup hnodup (List.mem_map_of_mem mem)
  unfold ForwardConn.handleForward
  dsimp only
  rw [readRequest_importRequest (length_listedBusid device), liveForwardDevices_ok]
  dsimp only
  rw [h.requested mem, hfound]
  rfl

end

/-- Bus ids tell devices apart, fit the field of a record, and lead back from it. -/
theorem listed_devices_importable :
    (∀ t t' : Topology, t.busId = t'.busId → t = t') ∧
    (∀ t : Topology, t.busId.utf8ByteSize ≤ 31) ∧
    (∀ (t : Topology) (device : LocalDevice), device.info.busId = t.busId →
      slice (encodeDeviceHeader device) 288 4 = u32Be (UInt32.ofNat t.bus.toNat)) ∧
    ∀ (devices : List LocalDevice) (topologies : List Topology), PlacedAt devices topologies →
      topologies.Nodup →
      (∀ (i : Nat) device, (LoopbackConn.exportedOnly devices)[i]? = some device → ∀ rest written,
        LoopbackConn.handleClient devices
            (.managing (importRequest (listedBusid device) ++ rest) written) .request =
          some (.serving device (written ++ [importReply (some device)]) { input := rest })) ∧
      ∀ (i : Nat) device, devices[i]? = some device → ∀ rest written response,
        ForwardConn.handleForward (.managing (importRequest (listedBusid device) ++ rest) written)
            (.request (.ok { devices := devices.map fun device => device.info }) (.ok response)) =
          some (.serving { device with backend := .emulated }
            (written ++ [importReply (some device)]) { input := rest }) := by
  refine ⟨fun _ _ h => Topology.busId_injective h, Topology.utf8ByteSize_busId_le, ?_, ?_⟩
  · intro t device hbusId
    rw [busnum_of_header, hbusId, busnum_of_topology, Option.getD_some]
  · intro devices topologies hplaced hdistinct
    constructor
    · intro i device hdevice rest written
      exact handleClient_listed hplaced hdistinct (List.mem_of_getElem? hdevice) rest written
    · intro i device hdevice rest written response
      exact handleForward_listed hplaced hdistinct (List.mem_of_getElem? hdevice) rest written
        response

namespace Sample

/-- A port of the root hub, and the longest path there is. -/
def places : List Topology :=
  [⟨1, [2], by decide, by decide⟩, ⟨255, List.replicate 7 255, by decide, by decide⟩]

def placedDevices : List LocalDevice :=
  [{ plainDevice with info := { plainDevice.info with busId := "1-2" } },
    { plainDevice with
      info := { plainDevice.info with id := 2, busId := "255-255.255.255.255.255.255.255" } }]

end Sample

theorem sample_listed_devices_importable :
    ∃ device, Sample.placedDevices[1]? = some device ∧
      LoopbackConn.handleClient Sample.placedDevices
          (.managing (importRequest (listedBusid device)) []) .request =
        some (.serving device [importReply (some device)] { input := [] }) := by
  obtain ⟨-, -, -, himport⟩ := listed_devices_importable
  have hplaced : PlacedAt Sample.placedDevices Sample.places := by
    unfold PlacedAt
    decide +kernel
  obtain ⟨hclient, -⟩ := himport Sample.placedDevices Sample.places hplaced (by decide)
  have hstep := hclient 1 _ rfl [] []
  rw [List.append_nil] at hstep
  exact ⟨_, rfl, hstep⟩

end FarBus.Core
