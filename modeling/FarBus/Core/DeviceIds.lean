/-
  Core/DeviceIds.lean --- device ids over the life of an inventory.

  `DeviceInventory::new` and every `refresh_hosts` after it decide which id a device
  has: one that was asked for, one that its key had before, or the next of the
  counter.  `IdsFresh` says that known keys are those of present devices and that
  present ids are below the counter.  Here is the converse: every present device is
  known under its key.  Together they make keys and ids determine each other.
-/
import FarBus.Foundation.Transition
import FarBus.Core.Inventory

set_option autoImplicit false

namespace FarBus.Core

open FarBus.Foundation
open FarBus.Protocol

namespace DeviceInventory

/-- Every present device is known under its key, by the id it has. -/
def Listed (self : DeviceInventory) : Prop :=
  ∀ (id : DeviceId) device, self.present[id]? = some device → self.knownIds device.key = some id

/-! ## The loops -/

theorem identify_knownIds (self : DeviceInventory) {key : DeviceKey} {id : DeviceId}
    (h : self.knownIds key = some id) (other : DeviceKey) :
    (self.identify other).2.knownIds key = some id := by
  unfold identify
  split
  · exact h
  · rename_i hunknown
    have hne : key ≠ other := by
      intro heq
      rw [heq, hunknown] at h
      cases h
    simp only [insertKnown, allocateId, if_neg hne]
    exact h

/-- The scan loop adds keys and forgets none. -/
theorem foldl_scanDevice_knownIds (scanned : List LocalDevice) (scan : Scan) {key : DeviceKey}
    {id : DeviceId} (h : scan.inventory.knownIds key = some id) :
    (scanned.foldl scanDevice scan).inventory.knownIds key = some id := by
  induction scanned generalizing scan with
  | nil => exact h
  | cons device scanned ih =>
      exact ih (scanDevice scan device) (identify_knownIds scan.inventory h device.key)

theorem removeDevice_keeps_knownIds {self : DeviceInventory} {key : DeviceKey} {id : DeviceId}
    (h : self.knownIds key = some id) (gone : DeviceId)
    (hother : ∀ device, self.present[gone]? = some device → device.key ≠ key) :
    (self.removeDevice gone).knownIds key = some id := by
  have hsame : (self.removeDevice gone).knownIds = (self.removePresent gone).knownIds := by
    unfold removeDevice revokeToken
    split <;> rfl
  rw [hsame]
  unfold removePresent
  split
  · rename_i device hdevice
    have hne : key ≠ device.key := fun heq => hother device hdevice heq.symm
    simp only [removeKnown, if_neg hne]
    exact h
  · exact h

/-- The removal loop forgets the keys of removed devices only. -/
theorem foldl_removeDevice_knownIds (removed : List DeviceId) {self : DeviceInventory}
    {key : DeviceKey} {id : DeviceId} (h : self.knownIds key = some id)
    (hother : ∀ gone ∈ removed, ∀ device, self.present[gone]? = some device → device.key ≠ key) :
    (removed.foldl removeDevice self).knownIds key = some id := by
  induction removed generalizing self with
  | nil => exact h
  | cons first removed ih =>
      apply ih (removeDevice_keeps_knownIds h first (hother first List.mem_cons_self))
      intro gone hgone device hdevice
      rw [removeDevice, revokeToken_present, removePresent_present] at hdevice
      split at hdevice
      · cases hdevice
      · exact hother gone (List.mem_cons_of_mem _ hgone) device hdevice

/-- A key that the scan knows stays known, unless the device that had it is removed. -/
theorem refreshHosts_knownIds (self : DeviceInventory) (scanned : List LocalDevice)
    {key : DeviceKey} {id : DeviceId}
    (h : (scanned.foldl scanDevice { inventory := self }).inventory.knownIds key = some id)
    (hother : ∀ gone ∈ (self.refreshHosts scanned).1.removed, ∀ device,
      self.present[gone]? = some device → device.key ≠ key) :
    (self.refreshHosts scanned).2.knownIds key = some id := by
  unfold refreshHosts
  rw [(foldl_insertHost _ _).knownIds]
  apply foldl_removeDevice_knownIds _ h
  rw [(scanFrame_foldl self scanned).present]
  exact hother

/-! ## A refresh -/

section

variable {self : DeviceInventory} {scanned : List LocalDevice}

theorem Listed.refreshHosts (h : self.Listed) (hfresh : self.IdsFresh)
    (hnext : ¬ (self.refreshHosts scanned).2.Saturated) :
    (self.refreshHosts scanned).2.Listed := by
  have hloops := refreshHosts_loops self scanned
  have hscan := hfresh.scanFresh scanned hnext
  -- a device that is removed was known, and the scan has not found its id
  have hgone : ∀ gone ∈ (self.refreshHosts scanned).1.removed, ∀ device,
      self.present[gone]? = some device →
      (scanned.foldl scanDevice { inventory := self }).inventory.knownIds device.key
        = some gone := by
    intro gone _ device hdevice
    exact foldl_scanDevice_knownIds scanned { inventory := self } (h gone device hdevice)
  intro id device hdevice
  rcases hloops.present id with ⟨hsame, -⟩ | ⟨device', hmem, hlast⟩
  · rw [hsame] at hdevice
    split at hdevice
    · cases hdevice
    · rename_i hkept
      have hknown := foldl_scanDevice_knownIds scanned { inventory := self } (h id device hdevice)
      apply refreshHosts_knownIds self scanned hknown
      intro gone hremoved device' hdevice' hkey
      have hsameId := hgone gone hremoved device' hdevice'
      rw [hkey, hknown, Option.some.injEq] at hsameId
      rw [hsameId] at hkept
      exact hkept hremoved
  · rw [hlast, Option.some.injEq] at hdevice
    subst hdevice
    have hknown := hscan.hosts _ hmem
    apply refreshHosts_knownIds self scanned hknown
    intro gone hremoved device'' hdevice'' hkey
    have hsameId := hgone gone hremoved device'' hdevice''
    rw [hkey, hknown, Option.some.injEq] at hsameId
    apply hloops.disjoint gone hremoved
    rw [← hsameId]
    exact List.mem_map.mpr ⟨_, hmem, rfl⟩

/-- A key that is there before and after a refresh has one id. -/
theorem Listed.stable (h : self.Listed) (hafter : (self.refreshHosts scanned).2.Listed)
    {id id' : DeviceId} {device device' : LocalDevice} (hdevice : self.present[id]? = some device)
    (hdevice' : (self.refreshHosts scanned).2.present[id']? = some device')
    (hkey : device.key = device'.key) : id = id' := by
  obtain ⟨middle, hremoval, hinsertion⟩ := (refreshHosts_loops self scanned).loops
  have hknown := foldl_scanDevice_knownIds scanned { inventory := self } (h id device hdevice)
  have hknown' := hafter id' device' hdevice'
  rw [hinsertion.knownIds] at hknown'
  obtain ⟨hscanned, -⟩ := hremoval.knownIds _ _ hknown'
  rw [← hkey, hknown, Option.some.injEq] at hscanned
  exact hscanned

/-- What a refresh removes was present. -/
theorem WellFormed.present_of_removed (h : self.WellFormed) {id : DeviceId}
    (hremoved : id ∈ (self.refreshHosts scanned).1.removed) : id ∈ self.present := by
  obtain ⟨device, hdevice, rfl⟩ := List.mem_map.mp (List.mem_filter.mp hremoved).1
  exact (mem_iff_lookup _ _).mpr ⟨device, h.lookup_of_mem (List.mem_filter.mp hdevice).1⟩

/-- An id below the counter that is not present does not come back. -/
theorem IdsFresh.absent_refreshHosts (h : self.IdsFresh)
    (hnext : ¬ (self.refreshHosts scanned).2.Saturated) {id : DeviceId} (hbelow : id < self.nextId)
    (habsent : id ∉ self.present) :
    id ∉ (self.refreshHosts scanned).1.added ∧ id ∉ (self.refreshHosts scanned).2.present := by
  have hadded : id ∉ (self.refreshHosts scanned).1.added := by
    intro hadded
    exact UInt32.lt_irrefl _ (UInt32.lt_of_lt_of_le hbelow (h.nextId_le_added scanned hnext hadded))
  refine ⟨hadded, ?_⟩
  intro hpresent
  exact hadded ((refreshHosts_spec self scanned).appeared id hpresent habsent)

end

/-! ## The initial inventory -/

theorem Listed.addInitial {self : DeviceInventory} (h : self.Listed) (device : LocalDevice)
    (hnew : self.knownIds device.key = none) : (self.addInitial device).Listed := by
  obtain ⟨hpresent, -, -, -, hknown⟩ := addInitial_tables self device
  intro id' device' hdevice
  rw [hpresent, lookup_insert] at hdevice
  rw [hknown]
  split at hdevice
  · rename_i heq
    rw [Option.some.injEq] at hdevice
    rw [← hdevice, LocalDevice.key_withId, if_pos rfl, heq]
  · have hlisted := h id' device' hdevice
    rw [if_neg, hlisted]
    intro hkey
    rw [hkey, hnew] at hlisted
    cases hlisted

theorem listed_new {devices : List LocalDevice} (hkeys : (devices.map LocalDevice.key).Nodup) :
    (new devices).Listed := by
  have hlisted : ({} : DeviceInventory).Listed := by
    intro id device hdevice
    simp at hdevice
  have hnew : ∀ device ∈ devices, ({} : DeviceInventory).knownIds device.key = none :=
    fun _ _ => rfl
  unfold new
  generalize ({} : DeviceInventory) = inventory at hlisted hnew ⊢
  induction devices generalizing inventory with
  | nil => exact hlisted
  | cons device devices ih =>
      rw [List.map_cons, List.nodup_cons] at hkeys
      apply ih hkeys.2 _ (hlisted.addInitial device (hnew device List.mem_cons_self))
      intro device' hmem
      rw [(addInitial_tables inventory device).2.2.2.2, if_neg]
      · exact hnew device' (List.mem_cons_of_mem _ hmem)
      · intro heq
        apply hkeys.1
        rw [← heq]
        exact List.mem_map_of_mem hmem

/-! ## The life of an inventory -/

/-- `refresh_hosts` as a step. -/
def step (self : DeviceInventory) (scanned : List LocalDevice) : Option DeviceInventory :=
  some (self.refreshHosts scanned).2

/-- The refreshes of an inventory that was set up with `devices`. -/
abbrev Runs (devices : List LocalDevice) (history : History DeviceInventory (List LocalDevice))
    (inventory : DeviceInventory) : Prop :=
  Run step (new devices) history inventory

/-- What the refresh reported. -/
def delta (t : Transition DeviceInventory (List LocalDevice)) : InventoryDelta :=
  (t.pre.refreshHosts t.act).1

section

variable {devices : List LocalDevice} {start inventory : DeviceInventory}
  {history later earlier : History DeviceInventory (List LocalDevice)}
  {t : Transition DeviceInventory (List LocalDevice)}

theorem nextId_le_refreshes (run : Run step start history inventory) :
    start.nextId ≤ inventory.nextId := by
  induction run with
  | nil => exact UInt32.le_refl _
  | snoc _ taken ih =>
      cases taken
      exact UInt32.le_trans ih (nextId_le_refreshHosts _ _)

/-- The invariants of a run whose counter is not saturated. -/
theorem invariants_run (hkeys : (devices.map LocalDevice.key).Nodup)
    (run : Runs devices history inventory) (hnext : ¬ inventory.Saturated) :
    inventory.WellFormed ∧ inventory.IdsFresh ∧ inventory.Listed := by
  induction run with
  | nil => exact ⟨wellFormed_new devices, idsFresh_new devices hnext, listed_new hkeys⟩
  | @snoc history pre post scanned run taken ih =>
      cases taken
      obtain ⟨hformed, hfresh, hlisted⟩ :=
        ih (not_saturated_of_le (nextId_le_refreshHosts pre scanned) hnext)
      exact ⟨hformed.refreshHosts scanned, hfresh.refreshHosts scanned hnext,
        hlisted.refreshHosts hfresh hnext⟩

/-- An id that was handed out and is not present stays away. -/
theorem absent_run (run : Run step start history inventory) (hnext : ¬ inventory.Saturated)
    (hfresh : start.IdsFresh) {id : DeviceId} (hbelow : id < start.nextId)
    (habsent : id ∉ start.present) :
    (inventory.IdsFresh ∧ id < inventory.nextId ∧ id ∉ inventory.present) ∧
      ∀ u ∈ history, id ∉ (delta u).added := by
  induction run with
  | nil => exact ⟨⟨hfresh, hbelow, habsent⟩, by simp⟩
  | @snoc history pre post scanned run taken ih =>
      cases taken
      have hle := nextId_le_refreshHosts pre scanned
      obtain ⟨⟨hfresh, hbelow, habsent⟩, hadded⟩ := ih (not_saturated_of_le hle hnext)
      obtain ⟨hnot, hpost⟩ := hfresh.absent_refreshHosts hnext hbelow habsent
      refine ⟨⟨hfresh.refreshHosts scanned hnext, UInt32.lt_of_lt_of_le hbelow hle, hpost⟩, ?_⟩
      intro u hu
      rcases List.mem_cons.mp hu with rfl | hu
      · exact hnot
      · exact hadded u hu

theorem not_saturated_of_run (run : Run step start history inventory)
    (hnext : ¬ inventory.Saturated) : ¬ start.Saturated :=
  not_saturated_of_le (nextId_le_refreshes run) hnext

/-- Device ids are stable and not reused.  Set up an inventory with devices of distinct
keys and refresh it any number of times, up to a state in which the id counter is not
saturated.  Over each refresh, a key that is there before and after keeps its id.  No
two present devices have the same id.  And an id that some refresh reports as removed
is not the id of any device after that, nor reported as added again.  What is scanned
need not be distinct. -/
theorem device_ids_stable (hkeys : (devices.map LocalDevice.key).Nodup)
    (run : Runs devices history inventory) (hnext : ¬ inventory.Saturated) :
    (∀ t ∈ history, ∀ device ∈ t.pre.snapshot, ∀ device' ∈ t.post.snapshot,
      device.key = device'.key → device.info.id = device'.info.id) ∧
    (inventory.snapshot.map fun device => device.info.id).Nodup ∧
    ∀ later t earlier, history = later ++ t :: earlier → ∀ id ∈ (delta t).removed,
      (∀ device ∈ inventory.snapshot, device.info.id ≠ id) ∧ ∀ u ∈ later, id ∉ (delta u).added := by
  obtain ⟨hformed, -, -⟩ := invariants_run hkeys run hnext
  refine ⟨?_, nodup_map_values _ _ hformed.infoId, ?_⟩
  · intro t ht device hdevice device' hdevice' hkey
    obtain ⟨later, earlier, rfl⟩ := List.append_of_mem ht
    obtain ⟨runBefore, taken, runAfter⟩ := run.cut
    have hpost := not_saturated_of_run runAfter hnext
    obtain ⟨hformedPost, -, hlistedPost⟩ := invariants_run hkeys (.snoc runBefore taken) hpost
    obtain ⟨pre, scanned, post⟩ := t
    obtain rfl : (pre.refreshHosts scanned).2 = post := Option.some.inj taken
    obtain ⟨hformedPre, -, hlistedPre⟩ := invariants_run hkeys runBefore
      (not_saturated_of_le (nextId_le_refreshHosts pre scanned) hpost)
    have hlookup := hformedPre.lookup_of_mem hdevice
    have hlookup' := hformedPost.lookup_of_mem hdevice'
    exact hlistedPre.stable hlistedPost hlookup hlookup' hkey
  · intro later t earlier hcut id hremoved
    subst hcut
    obtain ⟨runBefore, taken, runAfter⟩ := run.cut
    have hpost := not_saturated_of_run runAfter hnext
    obtain ⟨pre, scanned, post⟩ := t
    obtain rfl : (pre.refreshHosts scanned).2 = post := Option.some.inj taken
    have hle := nextId_le_refreshHosts pre scanned
    obtain ⟨hformedPre, hfreshPre, -⟩ := invariants_run hkeys runBefore
      (not_saturated_of_le hle hpost)
    have hbelow := hfreshPre.below id (hformedPre.present_of_removed hremoved)
    have hgone := (refreshHosts_spec pre scanned).gone id hremoved
    obtain ⟨⟨-, -, habsent⟩, hadded⟩ := absent_run runAfter hnext
      (hfreshPre.refreshHosts scanned hpost) (UInt32.lt_of_lt_of_le hbelow hle) hgone
    refine ⟨?_, hadded⟩
    intro device hdevice heq
    have hlookup := hformed.lookup_of_mem hdevice
    rw [heq] at hlookup
    exact habsent ((mem_iff_lookup _ _).mpr ⟨device, hlookup⟩)

end

end DeviceInventory

namespace Sample

def stick : LocalDevice :=
  { info :=
      { id := 0, busId := "3-2", vid := 0x0781, pid := 0x5567, usbClass := 0, speed := .high
        product := "stick", exported := true, interfaces := [] }
    backend := .host }

def disk : LocalDevice := { stick with info := { stick.info with busId := "3-1" } }

/-- A stick is there, a disk is plugged in, the stick is taken out and comes back. -/
def scans : List (List LocalDevice) := [[stick, disk], [disk], [disk, stick]]

def refreshed : History DeviceInventory (List LocalDevice) × DeviceInventory :=
  replay DeviceInventory.step scans ([], DeviceInventory.new [stick])

end Sample

/-- The stick's first id is not its second. -/
theorem sample_device_ids_stable :
    DeviceInventory.Runs [Sample.stick] Sample.refreshed.1 Sample.refreshed.2 ∧
      (Sample.refreshed.2.snapshot.map fun device => device.info.id) = [2, 3] ∧
      ∀ device ∈ Sample.refreshed.2.snapshot, device.info.id ≠ 1 := by
  have run : DeviceInventory.Runs [Sample.stick] Sample.refreshed.1 Sample.refreshed.2 :=
    Run.nil.replay _
  have hnext : ¬ Sample.refreshed.2.Saturated := by
    unfold DeviceInventory.Saturated
    decide +kernel
  obtain ⟨-, -, hremoved⟩ := DeviceInventory.device_ids_stable (by decide) run hnext
  refine ⟨run, by decide +kernel, ?_⟩
  exact (hremoved (Sample.refreshed.1.take 1) (Sample.refreshed.1.getD 1 ⟨{}, [], {}⟩)
    (Sample.refreshed.1.drop 2) rfl 1 (by decide +kernel)).1

end FarBus.Core
