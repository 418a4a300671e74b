/-
  Core/ExportPolicy.lean --- which devices are exported, after
  `crates/farbus-server/src/lib.rs`.

  The policy sets a flag on the devices of a scan, before the inventory sees them.
  The inventory keeps records and replaces them on a refresh, and never looks at the
  flag.  So what the policy says of a scanned device it says of every present one,
  and of every device that is listed, leased or driven through libusb.
-/
import FarBus.Core.Execution

set_option autoImplicit false

namespace FarBus.Core

open FarBus.Foundation
open FarBus.Protocol

/-! ## The policy -/

/-- The class of human interface devices, mass storage or hubs. -/
def sensitive (usbClass : UInt8) : Bool := usbClass = 3 || usbClass = 8 || usbClass = 9

def isSensitive (device : LocalDevice) : Bool :=
  sensitive device.info.usbClass
    || (device.info.usbClass == 0 && device.info.interfaces.isEmpty)
    || device.info.interfaces.any fun interface => sensitive interface.interfaceClass

def applyExportFlags (devices : List LocalDevice) (exportAll : Bool) (exactBusIds : List String) :
    List LocalDevice :=
  devices.map fun device =>
    { device with
      info := { device.info with
        exported := exactBusIds.contains device.info.busId || (exportAll && !isSensitive device) } }

/-- Applies explicit export selectors after a conservative broad-export pass. -/
def applyExportPolicy (devices : List LocalDevice) (exportAll : Bool)
    (exactBusIds : List String) : List LocalDevice :=
  applyExportFlags devices exportAll exactBusIds

/-- The device is selected by its bus id; or everything is exported and the device is
known not to be sensitive. -/
def Exportable (exportAll : Bool) (exactBusIds : List String) (device : LocalDevice) : Prop :=
  device.info.busId ∈ exactBusIds ∨
    exportAll = true ∧ device.info.usbClass ∉ [3, 8, 9] ∧
      (∀ interface ∈ device.info.interfaces, interface.interfaceClass ∉ [3, 8, 9]) ∧
      ¬ (device.info.usbClass = 0 ∧ device.info.interfaces = [])

theorem sensitive_iff {usbClass : UInt8} : sensitive usbClass = true ↔ usbClass ∈ [3, 8, 9] := by
  simp only [sensitive, Bool.or_eq_true, decide_eq_true_eq, List.mem_cons, List.not_mem_nil,
    or_false, or_assoc]

theorem isSensitive_eq_false_iff {device : LocalDevice} :
    isSensitive device = false ↔ device.info.usbClass ∉ [3, 8, 9] ∧
      (∀ interface ∈ device.info.interfaces, interface.interfaceClass ∉ [3, 8, 9]) ∧
      ¬ (device.info.usbClass = 0 ∧ device.info.interfaces = []) := by
  rw [← Bool.not_eq_true, isSensitive, Bool.or_eq_true, Bool.or_eq_true, sensitive_iff,
    Bool.and_eq_true, beq_iff_eq, List.isEmpty_iff, List.any_eq_true, not_or, not_or, not_exists]
  simp only [sensitive_iff, not_and]
  constructor
  · rintro ⟨⟨hclass, hknown⟩, hinterfaces⟩
    exact ⟨hclass, hinterfaces, hknown⟩
  · rintro ⟨hclass, hinterfaces, hknown⟩
    exact ⟨⟨hclass, hknown⟩, hinterfaces⟩

/-- The record says what the policy says. -/
def Policed (exportAll : Bool) (exactBusIds : List String) (device : LocalDevice) : Prop :=
  device.info.exported = true ↔ Exportable exportAll exactBusIds device

theorem Policed.withId {exportAll : Bool} {exactBusIds : List String} {device : LocalDevice}
    (h : Policed exportAll exactBusIds device) (id : DeviceId) :
    Policed exportAll exactBusIds (device.withId id) := h

theorem policed_applyExportFlags (exportAll : Bool) (exactBusIds : List String)
    (devices : List LocalDevice) :
    ∀ device ∈ applyExportFlags devices exportAll exactBusIds,
      Policed exportAll exactBusIds device := by
  intro device mem
  obtain ⟨scanned, -, rfl⟩ := List.mem_map.mp mem
  unfold Policed Exportable
  dsimp only
  rw [Bool.or_eq_true, Bool.and_eq_true, List.contains_iff_mem, Bool.not_eq_true',
    isSensitive_eq_false_iff]

/-! ## What holds of scanned devices holds of present ones -/

namespace DeviceInventory

variable {P : LocalDevice → Prop}

/-- The property holds of every present device. -/
def Throughout (P : LocalDevice → Prop) (self : DeviceInventory) : Prop :=
  ∀ (id : DeviceId) device, self.present[id]? = some device → P device

theorem Throughout.snapshot {self : DeviceInventory} (h : self.Throughout P) :
    ∀ device ∈ self.snapshot, P device := by
  intro device mem
  obtain ⟨id, hid⟩ := (mem_snapshot_iff _ _).mp mem
  exact h id device hid

theorem throughout_new (hid : ∀ device id, P device → P (device.withId id))
    {devices : List LocalDevice} (hdevices : ∀ device ∈ devices, P device) :
    (new devices).Throughout P := by
  have hempty : ({} : DeviceInventory).Throughout P := by
    intro id device h
    simp at h
  unfold new
  generalize ({} : DeviceInventory) = inventory at hempty ⊢
  induction devices generalizing inventory with
  | nil => exact hempty
  | cons device devices ih =>
      refine ih (fun d mem => hdevices d (List.mem_cons_of_mem _ mem)) _ ?_
      intro id found hfound
      rw [(addInitial_tables inventory device).1, lookup_insert] at hfound
      split at hfound
      · rw [← Option.some.inj hfound]
        exact hid device _ (hdevices device List.mem_cons_self)
      · exact hempty id found hfound

/-- The hosts a scan has gathered are scanned devices with their ids filled in. -/
theorem mem_nextHosts {scanned : List LocalDevice} {scan : Scan} {host : DeviceId × LocalDevice}
    (mem : host ∈ (scanned.foldl scanDevice scan).nextHosts) :
    host ∈ scan.nextHosts ∨ ∃ device ∈ scanned, host.2 = device.withId host.1 := by
  induction scanned generalizing scan with
  | nil => exact .inl mem
  | cons device scanned ih =>
      rcases ih mem with hearlier | ⟨found, hfound, heq⟩
      · rcases List.mem_append.mp hearlier with hearlier | hlast
        · exact .inl hearlier
        · rw [List.mem_singleton.mp hlast]
          exact .inr ⟨device, List.mem_cons_self, rfl⟩
      · exact .inr ⟨found, List.mem_cons_of_mem _ hfound, heq⟩

theorem Throughout.refreshHosts (hid : ∀ device id, P device → P (device.withId id))
    {self : DeviceInventory} (h : self.Throughout P) {scanned : List LocalDevice}
    (hscanned : ∀ device ∈ scanned, P device) :
    (self.refreshHosts scanned).2.Throughout P := by
  intro id device hdevice
  rcases (refreshHosts_loops self scanned).present id with ⟨hsame, -⟩ | ⟨host, mem, hlast⟩
  · rw [hsame] at hdevice
    split at hdevice
    · cases hdevice
    · exact h id device hdevice
  · rw [hlast] at hdevice
    cases hdevice
    rcases mem_nextHosts mem with hnone | ⟨found, hfound, heq⟩
    · cases hnone
    · rw [show device = found.withId id from heq]
      exact hid found id (hscanned found hfound)

end DeviceInventory

/-! ## Runs of a server with the policy -/

/-- A server that was set up with the policy, without a custom completer. -/
def policedServer (platform : Platform) (hostname : String) (fingerprint : PeerFingerprint)
    (scan : List LocalDevice) (exportAll : Bool) (exactBusIds : List String) (now : Instant)
    (draw : PinDraw) : World :=
  .initial (.new platform hostname fingerprint (applyExportPolicy scan exportAll exactBusIds) now
    draw) now

/-- Every refresh is on a scan that the policy has been applied to. -/
def RefreshesPoliced (exportAll : Bool) (exactBusIds : List String) (history : ServerHistory) :
    Prop :=
  ∀ t ∈ history, ∀ scanned, t.act = .refreshHostDevices scanned →
    ∃ raw, scanned = applyExportFlags raw exportAll exactBusIds

section

variable {platform : Platform} {start w : World} {history : ServerHistory} {exportAll : Bool}
  {exactBusIds : List String}

theorem policed_run (hstart : start.server.devices.Throughout (Policed exportAll exactBusIds))
    (run : World.Runs platform start history w)
    (refreshes : RefreshesPoliced exportAll exactBusIds history) :
    w.server.devices.Throughout (Policed exportAll exactBusIds) := by
  induction run with
  | nil => exact hstart
  | snoc run taken ih =>
      have hpre := ih fun t mem => refreshes t (List.mem_cons_of_mem _ mem)
      rcases World.step_devices taken with hsame | ⟨scanned, hact, hrefreshed⟩
      · rw [hsame]
        exact hpre
      · obtain ⟨raw, hraw⟩ := refreshes _ List.mem_cons_self scanned hact
        rw [hrefreshed]
        refine hpre.refreshHosts (fun _ id h => h.withId id) ?_
        rw [hraw]
        exact policed_applyExportFlags exportAll exactBusIds raw

/-! ## The consumers of the flag -/

/-- A device list that a session is about to send was taken from the inventory. -/
theorem deviceList_taken (run : World.Runs platform start history w)
    (hstart : start.sessions = []) {s : Nat} {session : Session}
    (found : w.sessions[s]? = some session) {list : DeviceList}
    (hpc : session.pc = .replying (.deviceList list)) :
    ∃ u ∈ history, Enters s .listing u ∧ list = u.pre.server.deviceList := by
  induction run generalizing session with
  | nil =>
      rw [hstart] at found
      cases found
  | @snoc history pre post act run taken ih =>
      have earlier : ∀ {session : Session}, pre.sessions[s]? = some session →
          session.pc = .replying (.deviceList list) →
          ∃ u ∈ (⟨pre, act, post⟩ :: history : ServerHistory),
            Enters s .listing u ∧ list = u.pre.server.deviceList := by
        intro session hfound hpc
        obtain ⟨u, mem, hu⟩ := ih hfound hpc
        exact ⟨u, List.mem_cons_of_mem _ mem, hu⟩
      rcases World.step_session taken found with ⟨-, -, rfl⟩ | ⟨before, hbefore, hmove⟩
      · cases hpc
      · cases hmove with
        | kept quiet peer principal pc => exact earlier hbefore (pc ▸ hpc)
        | recv msg hact pc result =>
            subst result
            unfold Session.dispatch at hpc
            split at hpc <;> (try split at hpc) <;> cases hpc
        | advance draw outcome hact entered result =>
            subst result
            cases entered with
            | listed pc =>
                cases hpc
                exact ⟨_, List.mem_cons_self, ⟨draw, before, hact, hbefore, pc⟩, rfl⟩
            | authorizedDevices | authorizedAttach | authorizedDetach => cases hpc
            | _ => cases hpc
        | left quiet live peer principal pc =>
            rw [hpc] at pc
            rcases pc with pc | pc | pc <;> cases pc

/-- The devices that a task has taken from the inventory. -/
def TaskPc.devices : TaskPc → Option (List LocalDevice)
  | .blocking devices | .callHost devices | .inHost devices => some devices
  | _ => none

/-- The devices of a task come from the inventory, or were there before its step. -/
theorem Task.advance_devices {task : Task} {server : ServerState} {io : TaskIo} {pc : TaskPc}
    (taken : task.advance server io = some pc) {devices : List LocalDevice}
    (hdevices : pc.devices = some devices) :
    devices = server.devicesSnapshot ∨ task.pc.devices = some devices := by
  unfold Task.advance at taken
  cases hpc : task.pc with
  | snapshot =>
      simp only [hpc] at taken
      split at taken <;> cases taken
      · exact .inl (Option.some.inj hdevices).symm
      · cases hdevices
      · cases hdevices
  | blocking held =>
      simp only [hpc] at taken
      split at taken <;> cases taken
      · exact .inr hdevices
      · cases hdevices
  | callHost held =>
      simp only [hpc] at taken
      cases taken
      exact .inr hdevices
  | start | inCustom =>
      simp only [hpc] at taken
      split at taken <;> (try split at taken) <;> cases taken <;> cases hdevices
  | callCustom | inHost | callEmulated | recheck | release | sending | finished =>
      simp only [hpc] at taken
      cases taken <;> cases hdevices

/-- What a task hands to libusb was taken from the inventory. -/
theorem snapshot_taken (run : World.Runs platform start history w) (hstart : start.tasks = [])
    {index : Nat} {task : Task} (found : w.tasks[index]? = some task)
    {devices : List LocalDevice} (hdevices : task.pc.devices = some devices) :
    ∃ u ∈ history, devices = u.pre.server.devicesSnapshot := by
  induction run generalizing task with
  | nil =>
      rw [hstart] at found
      cases found
  | @snoc history pre post act run taken ih =>
      have earlier : ∀ {task : Task}, pre.tasks[index]? = some task →
          task.pc.devices = some devices →
          ∃ u ∈ (⟨pre, act, post⟩ :: history : ServerHistory),
            devices = u.pre.server.devicesSnapshot := by
        intro task hfound hdevices
        obtain ⟨u, mem, hu⟩ := ih hfound hdevices
        exact ⟨u, List.mem_cons_of_mem _ mem, hu⟩
      rcases World.step_task taken found with hsame | ⟨before, io, pc, -, hbefore, hadvance, rfl⟩ |
        ⟨s, draw, session, urb, owner, presence, -, -, -, rfl⟩
      · exact earlier hsame hdevices
      · rcases Task.advance_devices hadvance hdevices with hnow | hbefore'
        · exact ⟨_, List.mem_cons_self, hnow⟩
        · exact earlier hbefore hbefore'
      · cases hdevices

/-- The device that `try_host` looks up before it turns to libusb. -/
def hostTarget (submit : UrbSubmit) (devices : List LocalDevice) : Option LocalDevice :=
  devices.find? fun device =>
    device.info.id = submit.deviceId && device.info.exported && device.backend = .host

theorem hostTarget_isSome {libusb : Libusb} {submit : UrbSubmit} {devices : List LocalDevice}
    {complete : UrbComplete} (h : tryHost libusb submit devices = some complete) :
    (hostTarget submit devices).isSome = true := by
  obtain ⟨device, hfind, -⟩ := Option.bind_eq_some_iff.mp h
  exact Option.isSome_iff_exists.mpr ⟨device, hfind⟩

theorem hostTarget_spec {submit : UrbSubmit} {devices : List LocalDevice} {device : LocalDevice}
    (h : hostTarget submit devices = some device) :
    device ∈ devices ∧ device.info.id = submit.deviceId ∧ device.info.exported = true ∧
      device.backend = .host := by
  have hfound := List.find?_some h
  simp only [Bool.and_eq_true, decide_eq_true_eq] at hfound
  exact ⟨List.mem_of_find?_eq_some h, hfound.1.1, hfound.1.2, hfound.2⟩

/-- An exported device of an inventory that the policy has been applied to is exportable. -/
theorem exportable_of_exported {server : ServerState}
    (h : server.devices.Throughout (Policed exportAll exactBusIds)) {device : LocalDevice}
    (mem : device ∈ server.devicesSnapshot) (exported : device.info.exported = true) :
    Exportable exportAll exactBusIds device :=
  (h.snapshot device mem).mp exported

end

/-- The policy holds over whole runs.  A present device is exported exactly if the policy
says so; a device list, a new lease and a URB for libusb are about devices of which it
does, in the inventory they were taken from. -/
theorem export_policy_holds (platform : Platform) (hostname : String)
    (fingerprint : PeerFingerprint) (scan : List LocalDevice) (exportAll : Bool)
    (exactBusIds : List String) (now : Instant) (draw : PinDraw) {history : ServerHistory}
    {w : World}
    (run : World.Runs platform
      (policedServer platform hostname fingerprint scan exportAll exactBusIds now draw) history w)
    (refreshes : RefreshesPoliced exportAll exactBusIds history) :
    (∀ device ∈ w.server.devicesSnapshot,
      device.info.exported = true ↔ Exportable exportAll exactBusIds device) ∧
    ∀ later t earlier, history = later ++ t :: earlier →
      (∀ s list, Sends s (.deviceList list) t → ∃ u ∈ earlier, Enters s .listing u ∧
        ∀ info ∈ list.devices, ∃ device ∈ u.pre.server.devicesSnapshot,
          device.info = info ∧ Exportable exportAll exactBusIds device) ∧
      (∀ device owner, t.pre.server.leases.owner device ≠ some owner →
        t.post.server.leases.owner device = some owner →
        ∃ found, t.pre.server.devices.get device = some found ∧
          Exportable exportAll exactBusIds found) ∧
      ∀ (index : Nat) (task : Task) (devices : List LocalDevice),
        t.pre.tasks[index]? = some task → task.pc.devices = some devices →
        (∃ u ∈ earlier, devices = u.pre.server.devicesSnapshot) ∧
        (∀ libusb complete, tryHost libusb task.urb devices = some complete →
          (hostTarget task.urb devices).isSome = true) ∧
        ∀ device, hostTarget task.urb devices = some device →
          device ∈ devices ∧ device.info.id = task.urb.deviceId ∧ device.backend = .host ∧
            Exportable exportAll exactBusIds device := by
  have hstart : (policedServer platform hostname fingerprint scan exportAll exactBusIds now
      draw).server.devices.Throughout (Policed exportAll exactBusIds) :=
    DeviceInventory.throughout_new (fun _ id h => h.withId id)
      (policed_applyExportFlags exportAll exactBusIds scan)
  refine ⟨(policed_run hstart run refreshes).snapshot, ?_⟩
  rintro later t earlier rfl
  obtain ⟨before, taken, -⟩ := run.cut
  have refreshes_before : RefreshesPoliced exportAll exactBusIds earlier := fun u mem =>
    refreshes u (List.mem_append_right _ (List.mem_cons_of_mem _ mem))
  have hpre := policed_run hstart before refreshes_before
  -- what held before any transition so far
  have policed_at : ∀ u ∈ earlier,
      u.pre.server.devices.Throughout (Policed exportAll exactBusIds) := by
    intro u mem
    obtain ⟨later', earlier', rfl⟩ := List.append_of_mem mem
    exact policed_run hstart before.cut.1 fun v hv =>
      refreshes_before v (List.mem_append_right _ (List.mem_cons_of_mem _ hv))
  refine ⟨?_, ?_, ?_⟩
  · intro s list hsends
    obtain ⟨-, session, -, found, hpc⟩ := hsends.enters taken fun _ => nofun
    obtain ⟨u, mem, henters, rfl⟩ := deviceList_taken before rfl found hpc
    refine ⟨u, mem, henters, ?_⟩
    intro info hinfo
    obtain ⟨device, hdevice, rfl⟩ := List.mem_map.mp hinfo
    obtain ⟨hsnapshot, hexported⟩ := List.mem_filter.mp hdevice
    exact ⟨device, hsnapshot, rfl, exportable_of_exported (policed_at u mem) hsnapshot hexported⟩
  · intro device owner hbefore hafter
    obtain ⟨s, -, found, hget, hexported⟩ := attachProcessed_of_acquired taken hbefore hafter
    exact ⟨found, hget, (hpre device found hget).mp hexported⟩
  · intro index task devices found hdevices
    obtain ⟨u, mem, rfl⟩ := snapshot_taken before rfl found hdevices
    refine ⟨⟨u, mem, rfl⟩, fun _ _ => hostTarget_isSome, ?_⟩
    intro device htarget
    obtain ⟨hmem, hid, hexported, hbackend⟩ := hostTarget_spec htarget
    exact ⟨hmem, hid, hbackend, exportable_of_exported (policed_at u mem) hmem hexported⟩

namespace Sample

/-- What a hotplug poll finds: the keyboard, on a real bus, and a second one. -/
def busScan : List LocalDevice :=
  [{ device with backend := .host },
    { info := { device.info with busId := "1-3" }, backend := .host }]

/-- A server that exports the keyboard by its bus id. -/
def policed : World :=
  policedServer platform "server" serverFingerprint (busScan.take 1) false ["1-1.2"] 0 0

/-- A poll, and a peer that attaches the first keyboard. -/
def polled : ServerHistory × World :=
  replay (World.step platform)
    (.refreshHostDevices (applyExportFlags busScan false ["1-1.2"]) :: (pair 0 peer 9 ++ attach 0 9))
    ([], policed)

def refreshesPoliced : Action → Bool
  | .refreshHostDevices scanned => scanned = applyExportFlags busScan false ["1-1.2"]
  | _ => true

end Sample

/-- The second keyboard is there, but it is not exported. -/
theorem sample_export_policy_holds :
    Sample.polled.2.server.leases.owner 1 = some Sample.peer ∧
    (Sample.polled.2.server.devices.get 2).map (fun device => device.info.exported) = some false ∧
    ∀ device ∈ Sample.polled.2.server.devicesSnapshot,
      device.info.exported = true ↔ Exportable false ["1-1.2"] device := by
  have run : World.Runs Sample.platform Sample.policed Sample.polled.1 Sample.polled.2 :=
    Run.nil.replay _
  have hacts : ∀ t ∈ Sample.polled.1, Sample.refreshesPoliced t.act = true := by
    decide +kernel
  have refreshes : RefreshesPoliced false ["1-1.2"] Sample.polled.1 := by
    intro t mem scanned hact
    have hpoliced := hacts t mem
    rw [hact] at hpoliced
    exact ⟨Sample.busScan, of_decide_eq_true hpoliced⟩
  exact ⟨by decide +kernel, by decide +kernel,
    (export_policy_holds _ _ _ _ _ _ _ _ run refreshes).1⟩

end FarBus.Core
