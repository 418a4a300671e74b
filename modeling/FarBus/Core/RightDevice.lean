/-
  Core/RightDevice.lean --- the device that a URB reaches.

  A client knows a device by an id, and by what a reply told of it: its bus id, in a list
  also vendor and product.  The host path looks for these in libusb's list, as the
  inventory has them when the URB is executed.  In between the inventory may have been
  refreshed any number of times.  As long as the counter of ids is not saturated, an id
  means one device for good; so what is opened is what the client was told of.
-/
import FarBus.Core.DeviceIds
import FarBus.Core.EmulatorUse
import FarBus.Core.HostTransfer
import FarBus.Core.Topology

set_option autoImplicit false

namespace FarBus.Core

open FarBus.Foundation
open FarBus.Protocol

/-! ## An id means one device -/

/-- An id that is there before and after a refresh means one device. -/
theorem DeviceInventory.Listed.same_key {self : DeviceInventory} (h : self.Listed)
    (hfresh : self.IdsFresh) {scanned : List LocalDevice}
    (hnext : ¬ (self.refreshHosts scanned).2.Saturated) {id : DeviceId}
    {device device' : LocalDevice} (hdevice : self.present[id]? = some device)
    (hdevice' : (self.refreshHosts scanned).2.present[id]? = some device') :
    device'.key = device.key := by
  have hlisted := h id device hdevice
  have hknown : (self.refreshHosts scanned).2.knownIds device.key = some id := by
    refine refreshHosts_knownIds self scanned
      (foldl_scanDevice_knownIds scanned { inventory := self } hlisted) ?_
    intro gone hremoved device'' hdevice'' hkey
    have hgone := h gone device'' hdevice''
    rw [hkey, hlisted, Option.some.injEq] at hgone
    subst hgone
    exact (refreshHosts_spec self scanned).gone id hremoved
      ((mem_iff_lookup _ _).mpr ⟨device', hdevice'⟩)
  obtain ⟨known, hpresent, hkey⟩ := (hfresh.refreshHosts scanned hnext).known _ _ hknown
  rw [hdevice', Option.some.injEq] at hpresent
  rw [hpresent, hkey]

/-- The device was looked up under the id, or could have been. -/
def Known (history : ServerHistory) (id : DeviceId) (device : LocalDevice) : Prop :=
  ∃ u ∈ history, u.pre.server.devices.get id = some device

section

variable {platform : Platform} {start w : World} {history : ServerHistory}
  {devices : List LocalDevice} {id : DeviceId} {device device' : LocalDevice}

theorem Known.mono {history' : ServerHistory} (h : Known history id device)
    (hsub : history ⊆ history') : Known history' id device := by
  obtain ⟨u, mem, hget⟩ := h
  exact ⟨u, hsub mem, hget⟩

theorem Known.of_snapshot (h : device ∈ w.server.devices.snapshot)
    (hformed : w.server.devices.WellFormed) {act : Action} {post : World} :
    Known (⟨w, act, post⟩ :: history) device.info.id device :=
  ⟨_, List.mem_cons_self, hformed.lookup_of_mem h⟩

theorem inventory_listed (hstart : World.Starting platform start)
    (hdevices : start.server.devices = .new devices)
    (hkeys : (devices.map LocalDevice.key).Nodup) (run : World.Runs platform start history w)
    (hnext : ¬ w.server.devices.Saturated) : w.server.devices.Listed := by
  induction run with
  | nil =>
      rw [hdevices]
      exact DeviceInventory.listed_new hkeys
  | snoc run taken ih =>
      have hpre := DeviceInventory.not_saturated_of_le (nextId_le_step taken) hnext
      rcases World.step_devices taken with hsame | ⟨scanned, -, hrefreshed⟩
      · rw [hsame]
        exact ih hpre
      · rw [hrefreshed] at hnext ⊢
        exact (ih hpre).refreshHosts (inventory_idsFresh hstart run hpre) hnext

/-- An id that was known is below the counter, and if it is there it means what it meant. -/
theorem Known.kept (hstart : World.Starting platform start)
    (hdevices : start.server.devices = .new devices)
    (hkeys : (devices.map LocalDevice.key).Nodup) (run : World.Runs platform start history w)
    (hnext : ¬ w.server.devices.Saturated) (h : Known history id device) :
    id < w.server.devices.nextId ∧
      ∀ device', w.server.devices.get id = some device' → device'.key = device.key := by
  induction run with
  | nil =>
      obtain ⟨u, mem, -⟩ := h
      cases mem
  | @snoc history pre post act run taken ih =>
      have hpre := DeviceInventory.not_saturated_of_le (nextId_le_step taken) hnext
      have hfresh := inventory_idsFresh hstart run hpre
      obtain ⟨hbelow, hmeant⟩ : id < pre.server.devices.nextId ∧
          ∀ device', pre.server.devices.get id = some device' → device'.key = device.key := by
        obtain ⟨u, mem, hget⟩ := h
        rcases List.mem_cons.mp mem with rfl | mem
        · refine ⟨hfresh.below id ((mem_iff_lookup _ _).mpr ⟨device, hget⟩), ?_⟩
          intro device' hget'
          rw [hget, Option.some.injEq] at hget'
          rw [hget']
        · exact ih hpre ⟨u, mem, hget⟩
      refine ⟨UInt32.lt_of_lt_of_le hbelow (nextId_le_step taken), ?_⟩
      intro device' hget'
      rcases World.step_devices taken with hsame | ⟨scanned, -, hrefreshed⟩
      · rw [hsame] at hget'
        exact hmeant device' hget'
      · rw [hrefreshed] at hget' hnext
        cases hbefore : pre.server.devices.get id with
        | some before =>
            have hlisted := inventory_listed hstart hdevices hkeys run hpre
            exact (hlisted.same_key hfresh hnext hbefore hget').trans (hmeant before hbefore)
        | none =>
            -- an id that was given up is not given out again
            have habsent : id ∉ pre.server.devices.present := by
              intro mem
              obtain ⟨before, hlookup⟩ := (mem_iff_lookup _ _).mp mem
              rw [DeviceInventory.get, hlookup] at hbefore
              cases hbefore
            exact absurd ((mem_iff_lookup _ _).mpr ⟨device', hget'⟩)
              (hfresh.absent_refreshHosts hnext hbelow habsent).2

/-- Whenever it is looked up, an id means the same. -/
theorem Known.key_eq (hstart : World.Starting platform start)
    (hdevices : start.server.devices = .new devices)
    (hkeys : (devices.map LocalDevice.key).Nodup) (run : World.Runs platform start history w)
    (hnext : ¬ w.server.devices.Saturated) (h : Known history id device)
    (h' : Known history id device') : device'.key = device.key := by
  -- the later of the two states is that of a run with the earlier one in its history
  have hpart : ∀ {earlier later : ServerHistory} {u : Transition World Action}
      {device device' : LocalDevice}, history = later ++ u :: earlier →
      u.pre.server.devices.get id = some device' → Known earlier id device →
      device'.key = device.key := by
    intro earlier later u device device' hcut hget hknown
    subst hcut
    obtain ⟨runBefore, taken, runAfter⟩ := run.cut
    have hpost := DeviceInventory.not_saturated_of_le (nextId_le_run runAfter) hnext
    have hpre := DeviceInventory.not_saturated_of_le (nextId_le_step taken) hpost
    exact (hknown.kept hstart hdevices hkeys runBefore hpre).2 device' hget
  obtain ⟨u, mem, hget⟩ := h
  obtain ⟨u', mem', hget'⟩ := h'
  obtain ⟨later, earlier, rfl⟩ := List.append_of_mem mem
  rcases List.mem_append.mp mem' with mem' | mem'
  · obtain ⟨latest, between, rfl⟩ := List.append_of_mem mem'
    refine hpart (by rw [List.append_assoc]; rfl) hget' ⟨u, ?_, hget⟩
    exact List.mem_append_right _ List.mem_cons_self
  · rcases List.mem_cons.mp mem' with rfl | mem'
    · rw [hget, Option.some.injEq] at hget'
      rw [hget']
    · exact (hpart rfl hget ⟨u', mem', hget'⟩).symm

/-! ## What a client is told -/

/-- A reply tells of devices what they were known by. -/
def Pc.Tells (history : ServerHistory) : Pc → Prop
  | .replying (.deviceList list) =>
      ∀ info ∈ list.devices, ∃ device, Known history info.id device ∧ device.info = info
  | .replying (.attachResponse response) =>
      ∃ device, Known history response.deviceId device ∧ device.info.busId = response.busId
  | _ => True

theorem Pc.Tells.mono {history' : ServerHistory} {pc : Pc} (h : pc.Tells history)
    (hsub : history ⊆ history') : pc.Tells history' := by
  unfold Pc.Tells at h ⊢
  split
  · intro info mem
    obtain ⟨device, hknown, hinfo⟩ := h info mem
    exact ⟨device, hknown.mono hsub, hinfo⟩
  · obtain ⟨device, hknown, hbusId⟩ := h
    exact ⟨device, hknown.mono hsub, hbusId⟩
  · trivial

theorem tells_run (hstart : World.Starting platform start)
    (run : World.Runs platform start history w) {s : Nat} {session : Session}
    (found : w.sessions[s]? = some session) : session.pc.Tells history := by
  induction run generalizing session with
  | nil => cases hstart <;> cases found
  | @snoc history pre post act run taken ih =>
      rcases World.step_session taken found with ⟨-, -, rfl⟩ | ⟨before, hbefore, hmove⟩
      · trivial
      · cases hmove with
        | kept quiet peer principal pc =>
            rw [pc]
            exact (ih hbefore).mono (List.subset_cons_self _ _)
        | recv msg hact pc result =>
            subst result
            unfold Session.dispatch
            split <;> (try split) <;> trivial
        | advance draw outcome hact entered result =>
            subst result
            cases entered with
            | listed pc =>
                intro info mem
                obtain ⟨device, hdevice, rfl⟩ := List.mem_map.mp mem
                have hsnapshot := (List.mem_filter.mp hdevice).1
                exact ⟨device, .of_snapshot hsnapshot (inventory_wellFormed hstart run), rfl⟩
            | attached pc exported =>
                exact ⟨_, ⟨_, List.mem_cons_self, (Option.filter_eq_some_iff.mp exported).1⟩, rfl⟩
            | _ => trivial
        | left quiet live peer principal pc => rcases pc with pc | pc | pc <;> rw [pc] <;> trivial

/-! ## What is opened -/

/-- In `t`, the task has libusb make a transfer for its URB. -/
def Transfers (i : Nat) (task : Task) (transfer : HostTransfer) (t : Transition World Action) :
    Prop :=
  ∃ io devices, t.act = .task i io ∧ t.pre.tasks[i]? = some task ∧ task.pc = .inHost devices ∧
    hostTransfer io.libusb task.urb devices = some transfer

/-- Where libusb says that the device is. -/
def LibusbDevice.busId (device : LibusbDevice) : Option String :=
  device.portNumbers.map (topologyBusId device.busNumber)

theorem of_matchesDevice {device : LocalDevice} {candidate : LibusbDevice}
    (h : matchesDevice device candidate = true) :
    candidate.descriptor = some (device.info.vid, device.info.pid) ∧
      candidate.busId = some device.info.busId := by
  unfold matchesDevice at h
  unfold LibusbDevice.busId
  split at h
  · rename_i vendorId productId ports hdescriptor hports
    simp only [Bool.and_eq_true, decide_eq_true_eq] at h
    rw [hdescriptor, hports, h.1.1, h.1.2, Option.map_some, h.2]
    exact ⟨rfl, rfl⟩
  · cases h

theorem portPath_ne_nil {ports : List UInt8} (h : ports ≠ []) : portPath ports ≠ [] := by
  obtain ⟨port, ports, rfl⟩ := List.exists_cons_of_ne_nil h
  have hdigits : (toString port.toNat).toList ≠ [] := by
    rw [Nat.toString_eq_ofList_toDigits, String.toList_ofList]
    exact Nat.toDigits_ne_nil
  intro hnil
  rw [portPath, List.map_cons] at hnil
  cases ports with
  | nil =>
      rw [List.map_nil, List.intercalate_singleton] at hnil
      exact hdigits hnil
  | cons next ports =>
      rw [List.map_cons, List.intercalate_cons_cons] at hnil
      exact hdigits (List.append_eq_nil_iff.mp (List.append_eq_nil_iff.mp hnil).1).1

/-- A bus id tells where the device is, for whatever libusb reports. -/
theorem topologyBusId_injective {bus bus' : UInt8} {ports ports' : List UInt8}
    (h : topologyBusId bus ports = topologyBusId bus' ports') : bus = bus' ∧ ports = ports' := by
  have hbus : bus = bus' := by
    have hbefore := congrArg beforeDash h
    rw [beforeDash_topologyBusId, beforeDash_topologyBusId] at hbefore
    exact UInt8.toNat_inj.mp (toString_nat_injective hbefore)
  refine ⟨hbus, ?_⟩
  have hchars := congrArg String.toList h
  rw [toList_topologyBusId, toList_topologyBusId, hbus] at hchars
  have hpath : portPath ports = portPath ports' := (List.cons.inj (List.append_cancel_left hchars)).2
  by_cases hports : ports = []
  · by_contra hne
    have hports' : ports' ≠ [] := fun hnil => hne (hports.trans hnil.symm)
    apply portPath_ne_nil hports'
    rw [← hpath, hports]
    rfl
  · by_cases hports' : ports' = []
    · rw [hports'] at hpath
      exact absurd hpath (portPath_ne_nil hports)
    · exact portPath_injective hports hports' hpath

/-- What is opened for a URB is an exported host device that was known by the URB's id. -/
theorem Transfers.known (hstart : World.Starting platform start)
    (run : World.Runs platform start history w) {i : Nat} {task : Task} {transfer : HostTransfer}
    {t : Transition World Action} (mem : t ∈ history) (h : Transfers i task transfer t) :
    ∃ device, Known history task.urb.deviceId device ∧ device.info.exported = true ∧
      device.backend = .host ∧
      transfer.device.descriptor = some (device.info.vid, device.info.pid) ∧
      transfer.device.busId = some device.info.busId := by
  obtain ⟨later, earlier, rfl⟩ := List.append_of_mem mem
  obtain ⟨io, devices, -, found, hpc, htransfer⟩ := h
  have htasks : start.tasks = [] := by cases hstart <;> rfl
  obtain ⟨u, hu, rfl⟩ := snapshot_taken run.cut.1 htasks found (by rw [hpc]; rfl)
  obtain ⟨device, hopened, -⟩ := of_hostTransfer htransfer
  obtain ⟨htarget, hmatches, -⟩ := of_hostOpened hopened
  obtain ⟨hmem, hid, hexported, hbackend⟩ := hostTarget_spec htarget
  obtain ⟨between, before, rfl⟩ := List.append_of_mem hu
  have hget := (inventory_wellFormed hstart run.cut.1.cut.1).lookup_of_mem hmem
  rw [hid] at hget
  refine ⟨device, ⟨u, ?_, hget⟩, hexported, hbackend, of_matchesDevice hmatches⟩
  exact List.mem_append_right _ (List.mem_cons_of_mem _ hu)

end

/-- The right device.  Set up a server with devices of distinct keys, and let it run with
any refreshes, sessions and tasks up to a state in which the counter of ids is not
saturated.  Whenever libusb is asked for a transfer for a URB, it is on a device with
the bus id, vendor and product that any device list, sent to whom and when ever, has
under the URB's id, and with the bus id that any attach reply has for it.  So all
transfers for one id, whenever they are made, go to one port and one kind of device.
And the inventory had it under that id, as an exported host device. -/
theorem right_device {platform : Platform} {start w : World} {history : ServerHistory}
    {devices : List LocalDevice} (hstart : World.Starting platform start)
    (hdevices : start.server.devices = .new devices)
    (hkeys : (devices.map LocalDevice.key).Nodup) (run : World.Runs platform start history w)
    (hnext : ¬ w.server.devices.Saturated) {i : Nat} {task : Task} {transfer : HostTransfer}
    {t : Transition World Action} (mem : t ∈ history) (htransfers : Transfers i task transfer t) :
    (∀ u ∈ history, ∀ s list, Sends s (.deviceList list) u → ∀ info ∈ list.devices,
      info.id = task.urb.deviceId →
      transfer.device.descriptor = some (info.vid, info.pid) ∧
        transfer.device.busId = some info.busId) ∧
    (∀ u ∈ history, ∀ s response, Sends s (.attachResponse response) u →
      response.deviceId = task.urb.deviceId → transfer.device.busId = some response.busId) ∧
    (∀ u ∈ history, ∀ j task' transfer', Transfers j task' transfer' u →
      task'.urb.deviceId = task.urb.deviceId →
      transfer'.device.descriptor = transfer.device.descriptor ∧
        transfer'.device.busNumber = transfer.device.busNumber ∧
        transfer'.device.portNumbers = transfer.device.portNumbers) ∧
    ∃ u ∈ history, ∃ device, u.pre.server.devices.get task.urb.deviceId = some device ∧
      device.info.exported = true ∧ device.backend = .host := by
  obtain ⟨device, hknown, hexported, hbackend, hdescriptor, hbusId⟩ :=
    htransfers.known hstart run mem
  -- whoever is known by the id has the key of what was opened
  have hkey : ∀ device', Known history task.urb.deviceId device' → device'.key = device.key :=
    fun device' hknown' => hknown.key_eq hstart hdevices hkeys run hnext hknown'
  have htold : ∀ u ∈ history, ∀ s msg, Sends s msg u → (∀ result, msg ≠ .urbComplete result) →
      (Pc.replying msg).Tells history := by
    intro u hu s msg hsends hmsg
    obtain ⟨later, earlier, rfl⟩ := List.append_of_mem hu
    obtain ⟨-, session, -, found, hpc⟩ := hsends.enters run.cut.2.1 hmsg
    have htells := tells_run hstart run.cut.1 found
    rw [hpc] at htells
    refine htells.mono fun v hv => ?_
    exact List.mem_append_right _ (List.mem_cons_of_mem _ hv)
  refine ⟨?_, ?_, ?_, ?_⟩
  · intro u hu s list hsends info hinfo hid
    obtain ⟨device', hknown', rfl⟩ := htold u hu s _ hsends (fun _ => nofun) info hinfo
    rw [hid] at hknown'
    have heq := hkey device' hknown'
    rw [LocalDevice.key, LocalDevice.key, DeviceKey.mk.injEq] at heq
    obtain ⟨-, heqBus, heqVid, heqPid⟩ := heq
    rw [heqBus, heqVid, heqPid]
    exact ⟨hdescriptor, hbusId⟩
  · intro u hu s response hsends hid
    obtain ⟨device', hknown', hbus⟩ := htold u hu s _ hsends (fun _ => nofun)
    rw [hid] at hknown'
    have heq := hkey device' hknown'
    rw [LocalDevice.key, LocalDevice.key, DeviceKey.mk.injEq] at heq
    rw [← hbus, heq.2.1]
    exact hbusId
  · intro u hu j task' transfer' htransfers' hid
    obtain ⟨device', hknown', -, -, hdescriptor', hbusId'⟩ := htransfers'.known hstart run hu
    rw [hid] at hknown'
    have heq := hkey device' hknown'
    rw [LocalDevice.key, LocalDevice.key, DeviceKey.mk.injEq] at heq
    obtain ⟨-, heqBus, heqVid, heqPid⟩ := heq
    rw [heqVid, heqPid] at hdescriptor'
    rw [heqBus] at hbusId'
    refine ⟨hdescriptor'.trans hdescriptor.symm, ?_⟩
    obtain ⟨ports, hports, hat⟩ := Option.map_eq_some_iff.mp hbusId
    obtain ⟨ports', hports', hat'⟩ := Option.map_eq_some_iff.mp hbusId'
    obtain ⟨hbus, hsame⟩ := topologyBusId_injective (hat'.trans hat.symm)
    exact ⟨hbus, by rw [hports, hports', hsame]⟩
  · obtain ⟨u, hu, hget⟩ := hknown
    exact ⟨u, hu, device, hget, hexported, hbackend⟩

namespace Sample

def bulkUrb : UrbSubmit := { urb with endpoint := 2, transfer := .bulk, data := [5, 6] }

/-- The keyboard, as libusb lists it, behind a device of the same make. -/
def keyboardPort : LibusbDevice :=
  { descriptor := some (0x046d, 0xc31c), portNumbers := some [1, 2], busNumber := 1, opens := true }

def hostIo : TaskIo :=
  { io with
    libusb :=
      { context := true
        devices := some [{ keyboardPort with portNumbers := some [1, 3] }, keyboardPort]
        read := none
        write := true } }

/-- The keyboard is attached, and the URB's task is on the blocking pool, in its call. -/
def calling : ServerHistory × World :=
  replay (World.step platform)
    (pair 0 peer 9 ++ attach 0 9 ++ [.recv 0 (.urbSubmit bulkUrb)] ++
      List.replicate 4 (.advance 0 (draw 0)) ++ List.replicate 4 (.task 0 hostIo))
    ([], exportedHost)

def called : Transition World Action :=
  ⟨calling.2, .task 0 hostIo, (calling.2.step platform (.task 0 hostIo)).getD exportedHost⟩

def keyboardTransfer : HostTransfer :=
  { device := keyboardPort, iface := 0, call := .writeBulk 2 [5, 6] }

end Sample

/-- The first device of the same make is passed over. -/
theorem sample_right_device :
    ∃ task, Transfers 0 task Sample.keyboardTransfer Sample.called ∧
      ∀ u ∈ Sample.called :: Sample.calling.1, ∀ s response, Sends s (.attachResponse response) u →
        response.deviceId = task.urb.deviceId → response.busId = "1-1.2" := by
  have run : World.Runs Sample.platform Sample.exportedHost (Sample.called :: Sample.calling.1)
      Sample.called.post :=
    (Run.nil.replay _).snoc_getD (by decide +kernel)
  have hmade : ∀ task ∈ Sample.calling.2.tasks[0]?, ∀ devices ∈ task.pc.devices,
      task.pc = .inHost devices ∧
        hostTransfer Sample.hostIo.libusb task.urb devices = some Sample.keyboardTransfer := by
    decide +kernel
  obtain ⟨task, found⟩ : ∃ task, Sample.calling.2.tasks[0]? = some task :=
    Option.isSome_iff_exists.mp (by decide +kernel)
  obtain ⟨taken, htaken⟩ : ∃ taken, task.pc.devices = some taken := by
    have hcalling : ∀ task ∈ Sample.calling.2.tasks[0]?, task.pc.devices.isSome = true := by
      decide +kernel
    exact Option.isSome_iff_exists.mp (hcalling task found)
  obtain ⟨hpc, htransfer⟩ := hmade task found taken htaken
  have htransfers : Transfers 0 task Sample.keyboardTransfer Sample.called :=
    ⟨Sample.hostIo, taken, rfl, found, hpc, htransfer⟩
  have hnext : ¬ Sample.called.post.server.devices.Saturated := by
    unfold DeviceInventory.Saturated
    decide +kernel
  have hdevices : Sample.exportedHost.server.devices = .new [Sample.hostKeyboard] := rfl
  obtain ⟨-, hattached, -⟩ := right_device (.new _ _ _ _ _) hdevices (by decide) run hnext
    List.mem_cons_self htransfers
  refine ⟨task, htransfers, ?_⟩
  intro u hu s response hsends hid
  have hbusId := hattached u hu s response hsends hid
  have hport : Sample.keyboardTransfer.device.busId = some "1-1.2" := by decide +kernel
  rw [hport, Option.some.injEq] at hbusId
  exact hbusId.symm

end FarBus.Core
