/-
  Core/PresenceTokens.lean --- the presence tokens of an inventory.

  A device has one token for as long as it stays: tokens in the table are set, no two
  devices share one, and a refresh takes them from the devices it removes only.
-/
import FarBus.Core.Inventory

set_option autoImplicit false

namespace FarBus.Core

open FarBus.Foundation
open FarBus.Protocol

namespace DeviceInventory

/-- Every token in the table is set, and no two devices share one. -/
structure Tokened (inventory : DeviceInventory) : Prop where
  set : ∀ (id : DeviceId) token, inventory.presence[id]? = some token →
    inventory.cells[token]? = some true
  unique : ∀ (id id' : DeviceId) token, inventory.presence[id]? = some token →
    inventory.presence[id']? = some token → id = id'

section

variable {self after : DeviceInventory}

theorem Tokened.congr (h : self.Tokened) (presence : after.presence = self.presence)
    (cells : after.cells = self.cells) : after.Tokened := by
  refine ⟨?_, ?_⟩
  · rw [presence, cells]
    exact h.set
  · rw [presence]
    exact h.unique

/-- A device gets a new token. -/
theorem Tokened.insert (h : self.Tokened) {id : DeviceId}
    (presence : ∀ id' : DeviceId, after.presence[id']? =
      if id' = id then some self.cells.length else self.presence[id']?)
    (cells : after.cells = self.cells ++ [true]) : after.Tokened := by
  have hlt : ∀ (id' : DeviceId) token, self.presence[id']? = some token →
      token < self.cells.length :=
    fun id' token htoken => (List.getElem?_eq_some_iff.mp (h.set id' token htoken)).1
  refine ⟨?_, ?_⟩
  · intro id' token htoken
    rw [presence] at htoken
    rw [cells]
    split at htoken
    · cases htoken
      exact List.getElem?_concat_length
    · rw [List.getElem?_append_left (hlt id' token htoken)]
      exact h.set id' token htoken
  · intro id₁ id₂ token h₁ h₂
    rw [presence] at h₁ h₂
    split at h₁
    · rename_i heq₁
      cases h₁
      split at h₂
      · rename_i heq₂
        exact heq₁.trans heq₂.symm
      · exact absurd (hlt id₂ _ h₂) (Nat.lt_irrefl _)
    · split at h₂
      · cases h₂
        exact absurd (hlt id₁ _ h₁) (Nat.lt_irrefl _)
      · exact h.unique id₁ id₂ token h₁ h₂

/-- A token is revoked, and leaves the table. -/
theorem Tokened.revokeToken (h : self.Tokened) (id : DeviceId) : (self.revokeToken id).Tokened := by
  refine ⟨?_, ?_⟩
  · intro id' token htoken
    rw [revokeToken_presence] at htoken
    split at htoken
    · cases htoken
    · rename_i hne
      unfold DeviceInventory.revokeToken
      split
      · rename_i revoked hrevoked
        have hother : revoked ≠ token := by
          rintro rfl
          exact hne (h.unique id' id revoked htoken hrevoked)
        rw [List.getElem?_set_ne hother]
        exact h.set id' token htoken
      · exact h.set id' token htoken
  · intro id₁ id₂ token h₁ h₂
    rw [revokeToken_presence] at h₁ h₂
    split at h₁
    · cases h₁
    · split at h₂
      · cases h₂
      · exact h.unique id₁ id₂ token h₁ h₂

theorem Tokened.removeDevice (h : self.Tokened) (id : DeviceId) : (self.removeDevice id).Tokened :=
  (h.congr (removePresent_presence self id) (removePresent_cells self id)).revokeToken id

theorem Tokened.insertHost (h : self.Tokened) (host : DeviceId × LocalDevice) :
    (self.insertHost host).Tokened := by
  by_cases hmem : host.1 ∈ self.presence
  · apply h.congr
    · unfold DeviceInventory.insertHost
      rw [if_pos hmem]
      rfl
    · rw [insertHost_cells, if_pos hmem]
  · refine @Tokened.insert self _ h host.1 ?_ ?_
    · intro id'
      unfold DeviceInventory.insertHost
      rw [if_neg hmem]
      exact lookup_insert _ _ _ _
    · rw [insertHost_cells, if_neg hmem]

theorem Tokened.addInitial (h : self.Tokened) (device : LocalDevice) :
    (self.addInitial device).Tokened := by
  obtain ⟨-, hpresence, hcells, -, -⟩ := addInitial_tables self device
  exact h.insert (fun id' => by rw [hpresence, lookup_insert]) hcells

theorem Tokened.foldl {α : Type} {round : DeviceInventory → α → DeviceInventory}
    (hround : ∀ self item, self.Tokened → (round self item).Tokened) (h : self.Tokened)
    (items : List α) : (items.foldl round self).Tokened := by
  induction items generalizing self with
  | nil => exact h
  | cons item items ih => exact ih (hround self item h)

theorem tokened_new (devices : List LocalDevice) : (new devices).Tokened := by
  refine Tokened.foldl (fun _ device h => h.addInitial device) ?_ devices
  exact ⟨by simp, by simp⟩

theorem Tokened.refreshHosts (h : self.Tokened) (scanned : List LocalDevice) :
    (self.refreshHosts scanned).2.Tokened := by
  have hframe := scanFrame_foldl self scanned
  unfold DeviceInventory.refreshHosts
  refine Tokened.foldl (fun _ host h => h.insertHost host) ?_ _
  refine Tokened.foldl (fun _ id h => h.removeDevice id) ?_ _
  exact h.congr hframe.presence hframe.cells

/-- A device that is still there after a refresh keeps its token. -/
theorem refreshHosts_token (scanned : List LocalDevice) {id : DeviceId} {token : PresenceToken}
    (htoken : self.presence[id]? = some token) {device : LocalDevice}
    (hafter : (self.refreshHosts scanned).2.present[id]? = some device) :
    (self.refreshHosts scanned).2.presence[id]? = some token := by
  have hspec := refreshHosts_spec self scanned
  apply hspec.token id token htoken
  intro hremoved
  exact hspec.gone id hremoved ((mem_iff_lookup _ _).mpr ⟨device, hafter⟩)

/-- The device of an id, found by going through all of them. -/
theorem find?_snapshot (h : self.WellFormed) {id : DeviceId} {device : LocalDevice}
    (hget : self.get id = some device) :
    (self.snapshot.find? fun device => device.info.id = id) = some device := by
  have hmem : device ∈ self.snapshot := (mem_snapshot_iff _ _).mpr ⟨id, hget⟩
  cases hfind : self.snapshot.find? fun device => device.info.id = id with
  | none =>
      have hnone := List.find?_eq_none.mp hfind device hmem
      simp [h.infoId id device hget] at hnone
  | some found =>
      have hid : found.info.id = id := by simpa using List.find?_some hfind
      have hlookup := h.lookup_of_mem (List.mem_of_find?_eq_some hfind)
      rw [hid] at hlookup
      exact hlookup.symm.trans hget

end

end DeviceInventory

end FarBus.Core
