/-
  Core/EmulatorUse.lean --- for which devices `complete_urb` is called.

  A session's task looks its device up in the inventory and goes by the backend it
  finds; the fallback of `complete_host_or_emulated` is never taken, since the lookup
  has found a host device and ids are unique.  The loopback listener hands
  `serve_urbs` an id and no backend, and `serve_urbs` calls `complete_urb` for it.
-/
import FarBus.Core.Execution
import FarBus.Core.UsbipManagement
import FarBus.Core.ExportPolicy

set_option autoImplicit false

namespace FarBus.Core

open FarBus.Foundation
open FarBus.Protocol

/-! ## Sessions -/

/-- In `u`, task `index` looked up the device of `urb` and found one with this backend. -/
def Dispatches (index : Nat) (urb : UrbSubmit) (backend : DeviceBackend)
    (u : Transition World Action) : Prop :=
  (∃ io task, u.act = .task index io ∧ u.pre.tasks[index]? = some task ∧ task.pc = .snapshot ∧
    task.urb = urb) ∧
  ∃ device, u.pre.server.devices.get urb.deviceId = some device ∧ device.backend = backend

/-- In `t`, `task` calls `complete_urb`: itself, or through the fallback of
`complete_host_or_emulated`. -/
def CallsEmulator (index : Nat) (task : Task) (t : Transition World Action) : Prop :=
  ∃ io, t.act = .task index io ∧ t.pre.tasks[index]? = some task ∧
    (task.pc = .callEmulated ∨ ∃ devices, task.pc = .inHost devices ∧ io.panicked = false ∧
      tryHost io.libusb task.urb devices = none ∧
      (devices.any fun device =>
        device.info.id = task.urb.deviceId && device.backend = .emulated) = true)

/-- Where a task stands, it stands because of what it found. -/
def TaskPc.Dispatched (index : Nat) (urb : UrbSubmit) (history : ServerHistory) : TaskPc → Prop
  | .callEmulated => ∃ u ∈ history, Dispatches index urb .emulated u
  | .blocking devices | .callHost devices | .inHost devices =>
      ∃ u ∈ history, Dispatches index urb .host u ∧ devices = u.pre.server.devicesSnapshot
  | _ => True

section

variable {platform : Platform} {start w : World} {history : ServerHistory}

theorem TaskPc.Dispatched.later {index : Nat} {urb : UrbSubmit} {pc : TaskPc}
    (h : pc.Dispatched index urb history) (t : Transition World Action) :
    pc.Dispatched index urb (t :: history) := by
  cases pc with
  | callEmulated =>
      obtain ⟨u, mem, hu⟩ := h
      exact ⟨u, List.mem_cons_of_mem t mem, hu⟩
  | blocking devices | callHost devices | inHost devices =>
      obtain ⟨u, mem, hu⟩ := h
      exact ⟨u, List.mem_cons_of_mem t mem, hu⟩
  | _ => exact trivial

/-- One step of a task. -/
theorem TaskPc.Dispatched.advance {index : Nat} {task : Task} {io : TaskIo} {pc : TaskPc}
    {post : World} (h : task.pc.Dispatched index task.urb history)
    (hformed : w.server.devices.WellFormed) (found : w.tasks[index]? = some task)
    (taken : task.advance w.server io = some pc) :
    pc.Dispatched index task.urb (⟨w, .task index io, post⟩ :: history) := by
  have later := h.later ⟨w, .task index io, post⟩
  unfold Task.advance at taken
  cases hpc : task.pc with
  | snapshot =>
      have looks : ∀ backend, (w.server.devicesSnapshot.find? fun device =>
          device.info.id = task.urb.deviceId).map (fun device => device.backend) = some backend →
          Dispatches index task.urb backend ⟨w, .task index io, post⟩ := fun backend hfind =>
        ⟨⟨io, task, rfl, found, hpc, rfl⟩, hformed.find_snapshot hfind⟩
      simp only [hpc] at taken
      split at taken <;> cases taken
      · exact ⟨_, List.mem_cons_self, looks _ (by assumption), rfl⟩
      · exact ⟨_, List.mem_cons_self, looks _ (by assumption)⟩
      · exact trivial
  | blocking devices | callHost devices =>
      simp only [hpc] at taken later
      first
        | (split at taken <;> cases taken)
          · exact later
          · exact trivial
        | cases taken
          exact later
  | start | inCustom =>
      simp only [hpc] at taken
      split at taken <;> (try split at taken) <;> cases taken <;> exact trivial
  | callCustom | inHost | callEmulated | recheck | release | sending =>
      simp only [hpc] at taken
      cases taken
      exact trivial
  | finished =>
      simp only [hpc] at taken
      cases taken

theorem dispatched_run (hstart : World.Starting platform start)
    (run : World.Runs platform start history w) {index : Nat} {task : Task}
    (found : w.tasks[index]? = some task) : task.pc.Dispatched index task.urb history := by
  induction run generalizing index task with
  | nil => cases hstart <;> cases found
  | snoc run taken ih =>
      rcases World.step_task taken found with hsame | ⟨before, io, pc, rfl, hbefore, hadvance, rfl⟩ |
        ⟨s, draw, session, urb, owner, presence, -, -, -, rfl⟩
      · exact (ih hsame).later _
      · exact (ih hbefore).advance (inventory_wellFormed hstart run) hbefore hadvance
      · exact trivial

/-- A session's task calls the emulator only for a device it has found to be emulated. -/
theorem emulator_called_for_emulated (hstart : World.Starting platform start)
    (run : World.Runs platform start history w) {later earlier : ServerHistory}
    {t : Transition World Action} (hcut : history = later ++ t :: earlier) {index : Nat}
    {task : Task} (calls : CallsEmulator index task t) :
    ∃ u ∈ earlier, Dispatches index task.urb .emulated u := by
  subst hcut
  obtain ⟨io, -, found, hpc⟩ := calls
  have before := run.cut.1
  have hdispatched := dispatched_run hstart before found
  rcases hpc with hpc | ⟨devices, hpc, -, -, hany⟩
  · rw [hpc] at hdispatched
    exact hdispatched
  · -- the fallback would need an emulated device under the id of a host device
    rw [hpc] at hdispatched
    obtain ⟨u, mem, ⟨-, device, hget, hhost⟩, rfl⟩ := hdispatched
    obtain ⟨other, hother, hmatch⟩ := List.any_eq_true.mp hany
    simp only [Bool.and_eq_true, decide_eq_true_eq] at hmatch
    obtain ⟨later', earlier', rfl⟩ := List.append_of_mem mem
    have hget' := (inventory_wellFormed hstart before.cut.1).lookup_of_mem hother
    rw [hmatch.1] at hget'
    cases hget.symm.trans hget'
    exact absurd (hhost.symm.trans hmatch.2) DeviceBackend.noConfusion

end

/-! ## The loopback listener -/

/-- In `t`, `serve_urbs` completes a submit for `device` by `complete_urb`. -/
def ServesByEmulator (device : LocalDevice) (t : Transition LoopbackConn LoopbackAction) : Prop :=
  ∃ written conn index result, t.pre = .serving device written conn ∧
    t.act = .urbs (.complete index (.urb result))

/-- A client can import the device: it is exported, and the lookup of the listener finds
it for some bus id. -/
def Importable (devices : List LocalDevice) (device : LocalDevice) : Prop :=
  ∃ busid : Bytes, busid.length = 32 ∧
    findByBusId (LoopbackConn.exportedOnly devices) (requestedBusId busid) = some device

/-- Everything the client ever sends to import a device and submit one URB. -/
def importAndSubmit (busid : Bytes) (cmd : UsbipCmdSubmit) : Bytes :=
  u16Be USBIP_VERSION ++ u16Be OP_REQ_IMPORT ++ u32Be 0 ++ (busid ++ cmd.encode)

theorem readRequest_importAndSubmit {busid : Bytes} (h : busid.length = 32)
    (cmd : UsbipCmdSubmit) :
    readRequest (importAndSubmit busid cmd) = some (.importDevice busid, cmd.encode) := by
  have hrequest : importAndSubmit busid cmd = importRequest busid ++ cmd.encode := by
    rw [importAndSubmit, importRequest, List.append_assoc _ busid]
  rw [hrequest, readRequest_importRequest h]

theorem length_importDevice {input rest busid : Bytes}
    (h : readRequest input = some (.importDevice busid, rest)) : busid.length = 32 := by
  obtain ⟨⟨header, input'⟩, -, h⟩ := Option.bind_eq_some_iff.mp h
  obtain ⟨_, -, h⟩ := Option.bind_eq_some_iff.mp h
  split at h
  · cases h
  · obtain ⟨_, -, h⟩ := Option.bind_eq_some_iff.mp h
    obtain ⟨⟨busid', rest'⟩, hbusid, h⟩ := Option.bind_eq_some_iff.mp h
    cases h
    exact (of_readExact hbusid).1

section

variable {devices : List LocalDevice} {input : Bytes}
  {history : History LoopbackConn LoopbackAction} {conn : LoopbackConn} {device : LocalDevice}

/-- What a connection serves, it has imported. -/
theorem importable_of_serving (run : LoopbackConn.Runs devices input history conn)
    {written : List Bytes} {served : UsbipConn} (hserving : conn = .serving device written served) :
    Importable devices device := by
  induction run generalizing written served with
  | nil => cases hserving
  | snoc run taken ih =>
      cases LoopbackConn.step_cases taken with
      | imported received found =>
          cases hserving
          exact ⟨_, length_importDevice received, found⟩
      | urbs =>
          cases hserving
          exact ih rfl
      | left | answered | writeFailed => cases hserving

theorem importable_of_served (run : LoopbackConn.Runs devices input history conn)
    {t : Transition LoopbackConn LoopbackAction} (mem : t ∈ history)
    (serves : ServesByEmulator device t) : Importable devices device := by
  obtain ⟨later, earlier, rfl⟩ := List.append_of_mem mem
  obtain ⟨written, served, -, -, hpre, -⟩ := serves
  exact importable_of_serving run.cut.1 hpre

theorem mem_of_importable (h : Importable devices device) : device ∈ devices := by
  obtain ⟨busid, -, hfound⟩ := h
  exact (List.mem_filter.mp (List.mem_of_find?_eq_some hfound)).1

/-- The import of a device that is found. -/
theorem handleClient_import {busid : Bytes} (hlength : busid.length = 32)
    (hfound : findByBusId (LoopbackConn.exportedOnly devices) (requestedBusId busid) = some device)
    (cmd : UsbipCmdSubmit) :
    LoopbackConn.handleClient devices (.managing (importAndSubmit busid cmd) []) .request =
      some (.serving device [importReply (some device)] { input := cmd.encode }) := by
  unfold LoopbackConn.handleClient LoopbackConn.handleClientFiltered
  rw [LoopbackConn.exportedOnly_exportedOnly]
  dsimp only
  rw [readRequest_importAndSubmit hlength]
  dsimp only
  rw [hfound]
  rfl

/-- A step of `serve_urbs` is a step of the connection. -/
theorem handleClient_urbs {written : List Bytes} {before after : UsbipConn} {act : UsbipAction}
    (taken : before.step (serveUrbs device.info.id) act = some after) :
    LoopbackConn.handleClient devices (.serving device written before) (.urbs act) =
      some (.serving device written after) := by
  unfold LoopbackConn.handleClient LoopbackConn.handleClientFiltered
  dsimp only
  rw [taken]
  rfl

/-- A submit that is read and completed. -/
theorem serveUrbs_completes (deviceId : DeviceId) {input : Bytes} {cmd : UsbipCmdSubmit}
    (received : readCommand input = some (.submit cmd [], [])) :
    ∃ reading completed, UsbipConn.step (serveUrbs deviceId) { input } .read = some reading ∧
      reading.step (serveUrbs deviceId)
        (.complete 0 (.urb (.ok (completeUrb (usbipUrb deviceId cmd []))))) = some completed := by
  refine ⟨{ input := [], tasks := [⟨.submit cmd [], .calling⟩] }, ?_, ?_, ?_⟩
  · exact
      { input := []
        tasks := [⟨.submit cmd [],
          .sending (retSubmitBytes cmd (completeUrb (usbipUrb deviceId cmd [])))⟩] }
  · dsimp only [UsbipConn.step]
    rw [received]
    rfl
  · have hreturns : UsbipConn.returns (serveUrbs deviceId) (.submit cmd [])
        (.urb (.ok (completeUrb (usbipUrb deviceId cmd [])))) = true :=
      decide_eq_true rfl
    simp only [UsbipConn.step, List.getElem?_cons_zero, Option.bind_eq_bind, Option.bind_some,
      hreturns, guard_true]
    rfl

/-- A client that imports a device and submits a URB to it is answered by the emulator. -/
theorem served_of_importable (h : Importable devices device) :
    ∃ input history conn t, LoopbackConn.Runs devices input history conn ∧ t ∈ history ∧
      ServesByEmulator device t := by
  obtain ⟨busid, hlength, hfound⟩ := h
  have received : readCommand Sample.inSubmit.encode = some (.submit Sample.inSubmit [], []) := by
    decide +kernel
  obtain ⟨reading, completed, hread, hcomplete⟩ := serveUrbs_completes device.info.id received
  have run : LoopbackConn.Runs devices (importAndSubmit busid Sample.inSubmit) _ _ :=
    ((Run.nil.snoc (handleClient_import hlength hfound Sample.inSubmit)).snoc
      (handleClient_urbs hread)).snoc (handleClient_urbs hcomplete)
  exact ⟨_, _, _, _, run, List.mem_cons_self, _, _, _, _, rfl, rfl⟩

end

/-- The emulator is called for emulated devices only, by the sessions and by the loopback
listener, exactly while no host device can be imported from the listener. -/
theorem emulator_for_emulated_iff {platform : Platform} {start w : World}
    {history : ServerHistory} (hstart : World.Starting platform start)
    (run : World.Runs platform start history w) :
    ((∀ later t earlier, history = later ++ t :: earlier → ∀ index task,
        CallsEmulator index task t → ∃ u ∈ earlier, Dispatches index task.urb .emulated u) ∧
      ∀ input served conn, LoopbackConn.Runs w.server.devicesSnapshot input served conn →
        ∀ t ∈ served, ∀ device, ServesByEmulator device t → device.backend = .emulated) ↔
    ∀ device ∈ w.server.devicesSnapshot, device.backend = .host →
      ¬ Importable w.server.devicesSnapshot device := by
  constructor
  · rintro ⟨-, hlistener⟩ device - hhost himportable
    obtain ⟨input, served, conn, t, hruns, mem, hserves⟩ := served_of_importable himportable
    have hemulated := hlistener input served conn hruns t mem device hserves
    rw [hhost] at hemulated
    cases hemulated
  · intro hnone
    refine ⟨fun _ _ _ hcut _ _ calls => emulator_called_for_emulated hstart run hcut calls, ?_⟩
    intro input served conn hruns t mem device hserves
    have himportable := importable_of_served hruns mem hserves
    cases hbackend : device.backend with
    | emulated => rfl
    | host => exact absurd himportable (hnone device (mem_of_importable himportable) hbackend)

/-- Where an exported device has a name that fits the request, a device of that name can be
imported. -/
theorem importable_of_exported {devices : List LocalDevice} {device : LocalDevice}
    (mem : device ∈ devices) (exported : device.info.exported = true) {busid : Bytes}
    (hlength : busid.length = 32) (named : requestedBusId busid = device.info.busId) :
    ∃ found, Importable devices found := by
  have hsome : (findByBusId (LoopbackConn.exportedOnly devices)
      (requestedBusId busid)).isSome = true := by
    rw [findByBusId, List.find?_isSome]
    exact ⟨device, List.mem_filter.mpr ⟨mem, exported⟩, decide_eq_true named.symm⟩
  obtain ⟨found, hfound⟩ := Option.isSome_iff_exists.mp hsome
  exact ⟨found, busid, hlength, hfound⟩

namespace Sample

/-- The keyboard on a real bus, exported. -/
def hostKeyboard : LocalDevice := { device with backend := .host }

def exportedHost : World :=
  .initial (.new platform "server" serverFingerprint [hostKeyboard] 0 0) 0

def keyboardBusId : Bytes := strBytes "1-1.2" ++ List.replicate 27 0

theorem exportedHost_host :
    ∀ device ∈ exportedHost.server.devicesSnapshot, device.backend = .host := by
  have hthroughout : exportedHost.server.devices.Throughout fun device => device.backend = .host :=
    DeviceInventory.throughout_new (fun _ _ h => h) (by simp [hostKeyboard])
  exact hthroughout.snapshot

theorem start_emulated :
    ∀ device ∈ start.server.devicesSnapshot, device.backend = .emulated := by
  have hthroughout : start.server.devices.Throughout fun found => found.backend = .emulated :=
    DeviceInventory.throughout_new (fun _ _ h => h) (by simp [device])
  exact hthroughout.snapshot

end Sample

theorem sample_emulator_for_emulated :
    (Sample.start.server.devices.get 1).isSome = true ∧
      ∀ input served conn, LoopbackConn.Runs Sample.start.server.devicesSnapshot input served conn →
        ∀ t ∈ served, ∀ device, ServesByEmulator device t → device.backend = .emulated := by
  refine ⟨by decide +kernel, ((emulator_for_emulated_iff Sample.starting .nil).mpr ?_).2⟩
  intro device mem hhost
  have hemulated := Sample.start_emulated device mem
  rw [hhost] at hemulated
  cases hemulated

/-- The listener lets a client import the exported keyboard, and the emulator answers for
it. -/
theorem emulator_answers_for_host :
    ¬ ∀ (platform : Platform) (start w : World) (history : ServerHistory),
      World.Starting platform start → World.Runs platform start history w →
      (∀ later t earlier, history = later ++ t :: earlier → ∀ index task,
        CallsEmulator index task t → ∃ u ∈ earlier, Dispatches index task.urb .emulated u) ∧
      ∀ input served conn, LoopbackConn.Runs w.server.devicesSnapshot input served conn →
        ∀ t ∈ served, ∀ device, ServesByEmulator device t → device.backend = .emulated := by
  intro hclaim
  obtain ⟨-, hlistener⟩ :=
    hclaim Sample.platform Sample.exportedHost Sample.exportedHost [] (.new _ _ _ _ _) .nil
  have hget : Sample.exportedHost.server.devices.get 1 = some Sample.hostKeyboard := by
    decide +kernel
  have hnamed : requestedBusId Sample.keyboardBusId = Sample.hostKeyboard.info.busId := by
    decide +kernel
  obtain ⟨found, himportable⟩ := importable_of_exported
    ((DeviceInventory.mem_snapshot_iff _ _).mpr ⟨_, hget⟩) rfl (by decide +kernel) hnamed
  obtain ⟨input, served, conn, t, hruns, mem, hserves⟩ := served_of_importable himportable
  have hemulated := hlistener input served conn hruns t mem found hserves
  rw [Sample.exportedHost_host found (mem_of_importable himportable)] at hemulated
  cases hemulated

end FarBus.Core
