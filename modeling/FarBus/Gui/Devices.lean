/-
  Gui/Devices.lean --- the device the window shows as attached, in every state it can come to.

  Attach, detach and the reload of the list each run on a thread of their own, so their events
  come in any order.  `AttachSucceeded` and `DetachSucceeded` set the phase from the list they
  leave; `DevicesLoaded` keeps `Forwarding` whatever its list says.
-/
import Mathlib.Data.List.Count
import FarBus.Gui.Servers

set_option autoImplicit false

namespace FarBus.Gui

open FarBus.Foundation
open FarBus.Protocol
open FarBus.Core

/-! ## Device lists (`crates/farbus-gui/src/actions.rs`) -/

def toGuiDevice (info : DeviceInfo) (attached : Option DeviceId) : GuiDevice where
  attached := attached == some info.id
  id := info.id
  busId := info.busId
  product := info.product
  vid := info.vid
  pid := info.pid

/-- What `load_devices` makes of the server's list. -/
def loadDevices (devices : List DeviceInfo) (attached : Option DeviceId) : List GuiDevice :=
  devices.map fun info => toGuiDevice info attached

def deviceIds (devices : List GuiDevice) : List DeviceId := devices.map GuiDevice.id

def attachedCount (devices : List GuiDevice) : Nat := devices.countP GuiDevice.attached

/-- A list that can be loaded: no id twice, and no two devices marked. -/
structure DevicesValid (devices : List GuiDevice) : Prop where
  distinct : (deviceIds devices).Nodup
  single : attachedCount devices ≤ 1

theorem attachedCount_pos_iff (devices : List GuiDevice) :
    0 < attachedCount devices ↔ devices.any GuiDevice.attached = true := by
  rw [attachedCount, List.countP_pos_iff, List.any_eq_true]

theorem deviceIds_map {mark : GuiDevice → GuiDevice} (hid : ∀ device, (mark device).id = device.id)
    (devices : List GuiDevice) : deviceIds (devices.map mark) = deviceIds devices := by
  rw [deviceIds, List.map_map]
  exact List.map_congr_left fun device _ => hid device

/-- Only the device of one id is marked, so it is marked as often as the id is there. -/
theorem attachedCount_map {α : Type} (entries : List α) (mark : α → GuiDevice) (id : DeviceId)
    (hmark : ∀ entry ∈ entries, (mark entry).attached = ((mark entry).id == id)) :
    attachedCount (entries.map mark) = (deviceIds (entries.map mark)).count id := by
  rw [attachedCount, deviceIds, List.map_map, List.count, List.countP_map, List.countP_map]
  exact List.countP_congr fun entry mem => by
    rw [Function.comp_apply, Function.comp_apply, Function.comp_apply, hmark entry mem]

theorem deviceIds_loadDevices (devices : List DeviceInfo) (attached : Option DeviceId) :
    deviceIds (loadDevices devices attached) = devices.map DeviceInfo.id := by
  rw [deviceIds, loadDevices, List.map_map]
  rfl

/-- Whatever device is attached, the list of a server with distinct ids can be loaded. -/
theorem devicesValid_loadDevices {devices : List DeviceInfo}
    (h : (devices.map DeviceInfo.id).Nodup) (attached : Option DeviceId) :
    DevicesValid (loadDevices devices attached) where
  distinct := by
    rw [deviceIds_loadDevices]
    exact h
  single := by
    cases attached with
    | none =>
        have hnone : attachedCount (loadDevices devices none) = 0 := by
          rw [attachedCount, loadDevices, List.countP_map, List.countP_eq_zero]
          exact fun info _ => Bool.false_ne_true
        omega
    | some id =>
        rw [loadDevices, attachedCount_map _ _ id]
        · change (deviceIds (loadDevices devices (some id))).count id ≤ 1
          rw [deviceIds_loadDevices]
          exact List.nodup_iff_count_le_one.mp h id
        · intro info _
          change (some id == some info.id) = (info.id == id)
          rw [Option.some_beq_some, Bool.beq_comm]

/-! ## Attach and detach -/

namespace GuiState

theorem id_attachDevice (id : DeviceId) (busId : String) (device : GuiDevice) :
    (attachDevice id busId device).id = device.id := by
  rw [attachDevice]
  dsimp only
  split <;> rfl

theorem id_detachDevice (id : DeviceId) (device : GuiDevice) :
    (detachDevice id device).id = device.id := by
  rw [detachDevice]
  split <;> rfl

/-- An attach marks the devices of its id and no others. -/
theorem attachedCount_attach (id : DeviceId) (busId : String) (devices : List GuiDevice) :
    attachedCount (devices.map (attachDevice id busId)) = (deviceIds devices).count id := by
  rw [attachedCount_map _ _ id, deviceIds_map (id_attachDevice id busId)]
  intro device _
  rw [attachDevice]
  dsimp only
  split <;> rfl

/-- A detach marks none. -/
theorem attachedCount_detach_le (id : DeviceId) (devices : List GuiDevice) :
    attachedCount (devices.map (detachDevice id)) ≤ attachedCount devices := by
  rw [attachedCount, List.countP_map]
  refine List.countP_mono_left fun device _ h => ?_
  rw [Function.comp_apply, detachDevice] at h
  split at h
  · cases h
  · exact h

/-- Only three events touch the devices, and no other event begins to forward. -/
theorem devices_cases (text : AddressText) (state : GuiState) (event : GuiEvent) :
    (∃ devices, event = .devicesLoaded devices) ∨
      (∃ id busId, event = .attachSucceeded id busId) ∨
      (∃ id, event = .detachSucceeded id) ∨
      (state.apply text event).devices = state.devices ∧
        ((state.apply text event).phase = .forwarding → state.phase = .forwarding) := by
  cases event with
  | devicesLoaded devices => exact .inl ⟨devices, rfl⟩
  | attachSucceeded id busId => exact .inr (.inl ⟨id, busId, rfl⟩)
  | detachSucceeded id => exact .inr (.inr (.inl ⟨id, rfl⟩))
  | serversFound servers =>
      refine .inr (.inr (.inr ⟨rfl, ?_⟩))
      unfold apply
      dsimp only
      split
      · nofun
      · exact id
  | pairStarted =>
      refine .inr (.inr (.inr ⟨rfl, ?_⟩))
      unfold apply
      dsimp only
      split <;> nofun
  | manualServerAdded =>
      refine .inr (.inr (.inr ?_))
      unfold apply
      dsimp only
      split
      · rename_i server _
        refine ⟨?_, ?_⟩
        · unfold pushServer
          dsimp only
          split <;> rfl
        · cases hphase : state.phase with
          | forwarding => exact fun _ => rfl
          | _ => nofun
      · exact ⟨rfl, nofun⟩
  | serverSelected | pinChanged | manualHostChanged | manualFingerprintChanged | trayHidden
  | trayShown => exact .inr (.inr (.inr ⟨rfl, id⟩))
  | scanStarted | pairSucceeded | pairRejected | failed | usbipListenRejected =>
      exact .inr (.inr (.inr ⟨rfl, nofun⟩))

end GuiState

/-! ## Runs -/

/-- At most one device is marked, and one is while the window says it is forwarding. -/
def Shown (state : GuiState) : Prop :=
  attachedCount state.devices ≤ 1 ∧
    (state.phase = .forwarding → attachedCount state.devices = 1)

/-- What is promised of the results of the threads. -/
def Orderly (t : Transition GuiState GuiAction) : Prop :=
  match t.act.event with
  | .attachSucceeded id _ => id ∈ deviceIds t.pre.devices
  | .devicesLoaded devices => DevicesValid devices
  | _ => True

/-- A list that is loaded while the window says it is forwarding marks a device. -/
def Refreshed (t : Transition GuiState GuiAction) : Prop :=
  match t.act.event with
  | .devicesLoaded devices =>
      t.pre.phase = .forwarding → devices.any GuiDevice.attached = true
  | _ => True

/-- The invariant of the runs in which every list is refreshed. -/
structure Tracked (state : GuiState) : Prop where
  valid : DevicesValid state.devices
  marked : state.phase = .forwarding → 0 < attachedCount state.devices

theorem Tracked.shown_of {state : GuiState} (h : Tracked state) : Shown state :=
  ⟨h.valid.single, fun hphase => Nat.le_antisymm h.valid.single (h.marked hphase)⟩

theorem tracked_new : Tracked GuiState.new where
  valid := ⟨List.nodup_nil, Nat.zero_le _⟩
  marked := nofun

theorem Tracked.step {pre post : GuiState} {action : GuiAction} (h : Tracked pre)
    (taken : guiStep pre action = some post) (orderly : Orderly ⟨pre, action, post⟩)
    (refreshed : Refreshed ⟨pre, action, post⟩) : Tracked post := by
  obtain ⟨text, event⟩ := action
  rw [← Option.some.inj taken]
  unfold Orderly at orderly
  unfold Refreshed at refreshed
  dsimp only at orderly refreshed ⊢
  rcases pre.devices_cases text event with
    ⟨devices, rfl⟩ | ⟨id, busId, rfl⟩ | ⟨id, rfl⟩ | ⟨hdevices, hphase⟩
  · refine ⟨orderly, ?_⟩
    intro hforwarding
    refine (attachedCount_pos_iff devices).mpr (refreshed ?_)
    unfold GuiState.apply at hforwarding
    dsimp only at hforwarding
    split at hforwarding
    · cases hforwarding
    · exact hforwarding
  · have hcount := GuiState.attachedCount_attach id busId pre.devices
    refine ⟨⟨?_, ?_⟩, fun _ => ?_⟩
    · exact deviceIds_map (GuiState.id_attachDevice id busId) pre.devices ▸ h.valid.distinct
    · exact hcount ▸ List.nodup_iff_count_le_one.mp h.valid.distinct id
    · exact hcount ▸ List.count_pos_iff.mpr orderly
  · have hle := GuiState.attachedCount_detach_le id pre.devices
    refine ⟨⟨?_, hle.trans h.valid.single⟩, ?_⟩
    · exact deviceIds_map (GuiState.id_detachDevice id) pre.devices ▸ h.valid.distinct
    · intro hforwarding
      refine (attachedCount_pos_iff _).mpr ?_
      unfold GuiState.apply at hforwarding
      dsimp only at hforwarding
      split at hforwarding
      · rename_i hany
        exact hany
      · cases hforwarding
  · refine ⟨?_, fun hforwarding => ?_⟩
    · rw [hdevices]
      exact h.valid
    · rw [hdevices]
      exact h.marked (hphase hforwarding)

theorem tracked_of_run {history : History GuiState GuiAction} {state : GuiState}
    (run : Run guiStep GuiState.new history state) (orderly : ∀ t ∈ history, Orderly t)
    (refreshed : ∀ t ∈ history, Refreshed t) :
    Tracked state ∧ ∀ t ∈ history, Tracked t.pre := by
  induction run with
  | nil => exact ⟨tracked_new, fun _ mem => nomatch mem⟩
  | snoc _ taken ih =>
      rw [List.forall_mem_cons] at orderly refreshed
      obtain ⟨hstate, hearlier⟩ := ih orderly.2 refreshed.2
      refine ⟨hstate.step taken orderly.1 refreshed.1, ?_⟩
      rw [List.forall_mem_cons]
      exact ⟨hstate, hearlier⟩

/-- A list that is not refreshed leaves the window forwarding without a device. -/
theorem refreshed_of_shown {pre post : GuiState} {action : GuiAction}
    (taken : guiStep pre action = some post) (shown : Shown post) :
    Refreshed ⟨pre, action, post⟩ := by
  obtain ⟨text, event⟩ := action
  rw [← Option.some.inj taken] at shown
  cases event with
  | devicesLoaded devices =>
      intro hforwarding
      rw [← attachedCount_pos_iff]
      have hcount : attachedCount devices = 1 := by
        refine shown.2 ?_
        unfold GuiState.apply
        dsimp only
        rw [if_neg fun h => h.2 hforwarding]
        exact hforwarding
      omega
  | _ => trivial

theorem refreshed_of_run {history : History GuiState GuiAction} {state : GuiState}
    (run : Run guiStep GuiState.new history state) (shown : Shown state)
    (earlier : ∀ t ∈ history, Shown t.pre) : ∀ t ∈ history, Refreshed t := by
  induction run with
  | nil => exact fun _ mem => nomatch mem
  | snoc _ taken ih =>
      rw [List.forall_mem_cons] at earlier ⊢
      exact ⟨refreshed_of_shown taken shown, ih earlier.1 earlier.2⟩

/-- The window shows a device as attached whenever it says it is forwarding, and never two, in
exactly those runs in which every list that is loaded while it is forwarding marks a device. -/
theorem forwarding_shown_iff {history : History GuiState GuiAction} {state : GuiState}
    (run : Run guiStep GuiState.new history state) (orderly : ∀ t ∈ history, Orderly t) :
    (Shown state ∧ ∀ t ∈ history, Shown t.pre) ↔ ∀ t ∈ history, Refreshed t := by
  constructor
  · rintro ⟨shown, earlier⟩
    exact refreshed_of_run run shown earlier
  · intro refreshed
    obtain ⟨hstate, hearlier⟩ := tracked_of_run run orderly refreshed
    exact ⟨hstate.shown_of, fun t mem => (hearlier t mem).shown_of⟩

namespace Sample

def uart (attached : Bool) : GuiDevice where
  id := 1
  busId := "1-1.2"
  product := "UART"
  vid := 0x0403
  pid := 0x6001
  attached := attached

/-- The window of a client that is paired. -/
def window (phase : GuiPhase) (devices : List GuiDevice) : GuiState :=
  { GuiState.new with
    phase
    devices
    selected := some (server "lab" 7).fingerprint
    session := some ⟨(server "lab" 7).addr, (server "lab" 7).fingerprint⟩ }

def pair : GuiAction :=
  ⟨offline, .pairSucceeded (server "lab" 7).addr (server "lab" 7).fingerprint⟩

/-- The list is asked for with no device attached. -/
def load : GuiAction := ⟨offline, .devicesLoaded [uart false]⟩

def attach : GuiAction := ⟨offline, .attachSucceeded 1 "1-1.2"⟩

def detach : GuiAction := ⟨offline, .detachSucceeded 1⟩

def detached : History GuiState GuiAction :=
  [⟨window .forwarding [uart true], detach, window .ready [uart false]⟩,
    ⟨window .ready [uart false], attach, window .forwarding [uart true]⟩,
    ⟨window .ready [], load, window .ready [uart false]⟩,
    ⟨GuiState.new, pair, window .ready []⟩]

theorem detached_run : Run guiStep GuiState.new detached (window .ready [uart false]) :=
  .snoc (.snoc (.snoc (.snoc .nil rfl) rfl) rfl) rfl

theorem devicesValid_uart : DevicesValid [uart false] := ⟨List.nodup_singleton _, Nat.zero_le _⟩

theorem detached_orderly : ∀ t ∈ detached, Orderly t := by
  unfold detached
  simp only [List.forall_mem_cons]
  exact ⟨trivial, List.mem_cons_self, devicesValid_uart, trivial, fun _ mem => nomatch mem⟩

/-- The device is attached again before the list that the detach asked for is there. -/
def reattached : History GuiState GuiAction :=
  ⟨window .forwarding [uart true], load, window .forwarding [uart false]⟩ ::
    ⟨window .ready [uart false], attach, window .forwarding [uart true]⟩ :: detached

theorem reattached_run :
    Run guiStep GuiState.new reattached (window .forwarding [uart false]) :=
  .snoc (.snoc detached_run rfl) rfl

end Sample

/-- The window says it is forwarding and shows no device as attached. -/
theorem reattached_not_shown :
    ∃ history state, Run guiStep GuiState.new history state ∧ (∀ t ∈ history, Orderly t) ∧
      state.phase = .forwarding ∧ attachedCount state.devices = 0 ∧ ¬ Shown state := by
  refine ⟨_, _, Sample.reattached_run, ?_, rfl, rfl, fun h => absurd (h.2 rfl) Nat.zero_ne_one⟩
  unfold Sample.reattached
  simp only [List.forall_mem_cons]
  exact ⟨Sample.devicesValid_uart, List.mem_cons_self, Sample.detached_orderly⟩

theorem detached_shown :
    Shown (Sample.window .ready [Sample.uart false]) ∧
      ∀ t ∈ Sample.detached, Shown t.pre := by
  refine (forwarding_shown_iff Sample.detached_run Sample.detached_orderly).mpr ?_
  unfold Sample.detached
  simp only [List.forall_mem_cons]
  refine ⟨trivial, trivial, ?_, trivial, fun _ mem => nomatch mem⟩
  nofun

end FarBus.Gui
