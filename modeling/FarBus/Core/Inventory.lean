/-
  Core/Inventory.lean --- the device inventory of `crates/farbus-core/src/usb.rs`.

  A device keeps its id while its key (backend, bus id, vendor, product) stays
  known.  A refresh compares a scan of host devices with what is present, drops
  what is gone and revokes its presence token.  Tokens are shared flags
  (`Arc<AtomicBool>`): here a token is an index into `cells`, which holds every
  flag ever allocated.
-/
import Mathlib.Data.List.Nodup
import Mathlib.Data.List.Perm.Subperm
import FarBus.Core.Lease

set_option autoImplicit false

namespace FarBus.Core

open FarBus.Foundation
open FarBus.Protocol

inductive DeviceBackend where
  | emulated
  | host
  deriving DecidableEq, Repr

structure LocalDevice where
  info : DeviceInfo
  backend : DeviceBackend
  deriving DecidableEq, Repr

structure DeviceKey where
  backend : DeviceBackend
  busId : String
  vid : UInt16
  pid : UInt16
  deriving DecidableEq, Repr

/-- `DeviceKey::from`. -/
def LocalDevice.key (device : LocalDevice) : DeviceKey :=
  { backend := device.backend
    busId := device.info.busId
    vid := device.info.vid
    pid := device.info.pid }

/-- `device.info.id = id`. -/
def LocalDevice.withId (device : LocalDevice) (id : DeviceId) : LocalDevice :=
  { device with info := { device.info with id := id } }

@[simp] theorem LocalDevice.key_withId (device : LocalDevice) (id : DeviceId) :
    (device.withId id).key = device.key := rfl

@[simp] theorem LocalDevice.id_withId (device : LocalDevice) (id : DeviceId) :
    (device.withId id).info.id = id := rfl

structure InventoryDelta where
  added : List DeviceId := []
  removed : List DeviceId := []
  deriving DecidableEq, Repr

/-- A token: where its flag is. -/
abbrev PresenceToken : Type := Nat

structure DeviceInventory where
  present : Std.ExtTreeMap UInt32 LocalDevice := {}
  /-- only looked up, inserted into and removed from -/
  knownIds : DeviceKey → Option DeviceId := fun _ => none
  presence : Std.ExtTreeMap UInt32 PresenceToken := {}
  nextId : UInt32 := 1
  /-- the flags behind the tokens -/
  cells : List Bool := []

/-- `u32::saturating_add(1)`. -/
def saturatingSucc (n : UInt32) : UInt32 := if n = 0xffffffff then n else n + 1

namespace DeviceInventory

def allocateId (self : DeviceInventory) : DeviceId × DeviceInventory :=
  (self.nextId, { self with nextId := saturatingSucc self.nextId })

/-- `known_ids.insert`. -/
def insertKnown (self : DeviceInventory) (key : DeviceKey) (id : DeviceId) : DeviceInventory :=
  { self with knownIds := fun key' => if key' = key then some id else self.knownIds key' }

/-- `known_ids.remove`. -/
def removeKnown (self : DeviceInventory) (key : DeviceKey) : DeviceInventory :=
  { self with knownIds := fun key' => if key' = key then none else self.knownIds key' }

/-- `presence.insert(id, Arc::new(AtomicBool::new(true)))`. -/
def insertToken (self : DeviceInventory) (id : DeviceId) : DeviceInventory :=
  { self with
    presence := self.presence.insert id self.cells.length
    cells := self.cells ++ [true] }

def insertPresent (self : DeviceInventory) (id : DeviceId) (device : LocalDevice) :
    DeviceInventory :=
  { self with present := self.present.insert id device }

/-- The id an initial device gets: the one it asks for, if it can have it. -/
def initialId (self : DeviceInventory) (requested : DeviceId) : DeviceId × DeviceInventory :=
  if requested ≠ 0 ∧ requested ∉ self.present then
    (requested, { self with nextId := max self.nextId (saturatingSucc requested) })
  else self.allocateId

/-- One round of the loop of `DeviceInventory::new`. -/
def addInitial (self : DeviceInventory) (device : LocalDevice) : DeviceInventory :=
  let found := self.initialId device.info.id
  let id := found.1
  ((found.2.insertKnown device.key id).insertToken id).insertPresent id (device.withId id)

/-- `DeviceInventory::new`. -/
def new (devices : List LocalDevice) : DeviceInventory := devices.foldl addInitial {}

def snapshot (self : DeviceInventory) : List LocalDevice := self.present.values

def get (self : DeviceInventory) (id : DeviceId) : Option LocalDevice := self.present[id]?

def presenceToken (self : DeviceInventory) (id : DeviceId) : Option PresenceToken :=
  self.presence[id]?

/-- `token.load(Ordering::Acquire)`. -/
def load (self : DeviceInventory) (token : PresenceToken) : Bool := self.cells.getD token false

/-- What the scan loop of `refresh_hosts` has gathered so far. -/
structure Scan where
  inventory : DeviceInventory
  newIds : List DeviceId := []
  nextHosts : List (DeviceId × LocalDevice) := []

/-- The id of a key, allocated if the key is not known. -/
def identify (self : DeviceInventory) (key : DeviceKey) : DeviceId × DeviceInventory :=
  match self.knownIds key with
  | some id => (id, self)
  | none => (self.allocateId.1, self.allocateId.2.insertKnown key self.allocateId.1)

/-- One round of the scan loop of `refresh_hosts`. -/
def scanDevice (scan : Scan) (device : LocalDevice) : Scan :=
  let found := scan.inventory.identify device.key
  let id := found.1
  { inventory := found.2
    newIds := if id ∈ found.2.present then scan.newIds else scan.newIds ++ [id]
    nextHosts := scan.nextHosts ++ [(id, device.withId id)] }

/-- The device is no longer present, and its key no longer known. -/
def removePresent (self : DeviceInventory) (id : DeviceId) : DeviceInventory :=
  match self.present[id]? with
  | some device => { self with present := self.present.erase id }.removeKnown device.key
  | none => self

/-- The token is taken out of the table and its flag cleared for whoever holds it. -/
def revokeToken (self : DeviceInventory) (id : DeviceId) : DeviceInventory :=
  match self.presence[id]? with
  | some token =>
      { self with presence := self.presence.erase id, cells := self.cells.set token false }
  | none => self

/-- One round of the removal loop of `refresh_hosts`. -/
def removeDevice (self : DeviceInventory) (id : DeviceId) : DeviceInventory :=
  (self.removePresent id).revokeToken id

/-- One round of the insertion loop of `refresh_hosts`. -/
def insertHost (self : DeviceInventory) (host : DeviceId × LocalDevice) : DeviceInventory :=
  let self := if host.1 ∈ self.presence then self else self.insertToken host.1
  self.insertPresent host.1 host.2

def oldHostIds (self : DeviceInventory) : List DeviceId :=
  (self.snapshot.filter fun device => device.backend = .host).map fun device => device.info.id

def refreshHosts (self : DeviceInventory) (scanned : List LocalDevice) :
    InventoryDelta × DeviceInventory :=
  let scan := scanned.foldl scanDevice { inventory := self }
  let nextSet := scan.nextHosts.map fun host => host.1
  let removed := self.oldHostIds.filter fun id => id ∉ nextSet
  let self := removed.foldl removeDevice scan.inventory
  let self := scan.nextHosts.foldl insertHost self
  ({ added := scan.newIds, removed }, self)

/-! ## The loops of a refresh -/

/-- The ids a scan found, in order. -/
def Scan.ids (scan : Scan) : List DeviceId := scan.nextHosts.map fun host => host.1

/-- What the scan loop leaves alone, and which ids it reports as new. -/
structure ScanFrame (base : DeviceInventory) (scan : Scan) : Prop where
  present : scan.inventory.present = base.present
  presence : scan.inventory.presence = base.presence
  cells : scan.inventory.cells = base.cells
  newIds : ∀ id, id ∈ scan.newIds ↔ id ∈ scan.ids ∧ id ∉ base.present
  infoId : ∀ host ∈ scan.nextHosts, host.2.info.id = host.1

theorem identify_of_known {self : DeviceInventory} {key : DeviceKey} {id : DeviceId}
    (h : self.knownIds key = some id) : self.identify key = (id, self) := by
  simp only [identify, h]

theorem identify_of_unknown {self : DeviceInventory} {key : DeviceKey}
    (h : self.knownIds key = none) :
    self.identify key = (self.nextId, self.allocateId.2.insertKnown key self.nextId) := by
  simp only [identify, h]
  rfl

theorem identify_frame (self : DeviceInventory) (key : DeviceKey) :
    (self.identify key).2.present = self.present ∧
      (self.identify key).2.presence = self.presence ∧
      (self.identify key).2.cells = self.cells := by
  unfold identify
  split <;> exact ⟨rfl, rfl, rfl⟩

theorem scanFrame_scanDevice {base : DeviceInventory} {scan : Scan} (h : ScanFrame base scan)
    (device : LocalDevice) : ScanFrame base (scanDevice scan device) := by
  obtain ⟨hpresent, hpresence, hcells⟩ := identify_frame scan.inventory device.key
  rw [h.present] at hpresent
  refine ⟨hpresent, hpresence.trans h.presence, hcells.trans h.cells, ?_, ?_⟩
  · intro id
    have hnew := h.newIds id
    unfold Scan.ids at hnew ⊢
    unfold scanDevice
    simp only [hpresent, List.map_append, List.map_cons, List.map_nil, List.mem_append,
      List.mem_singleton]
    split
    · rw [hnew]
      grind
    · rw [List.mem_append, List.mem_singleton, hnew]
      grind
  · intro host hhost
    rcases List.mem_append.mp hhost with hhost | hhost
    · exact h.infoId host hhost
    · rw [List.mem_singleton] at hhost
      rw [hhost, LocalDevice.id_withId]

theorem scanFrame_foldl (base : DeviceInventory) (scanned : List LocalDevice) :
    ScanFrame base (scanned.foldl scanDevice { inventory := base }) := by
  have hstart : ScanFrame base { inventory := base } :=
    ⟨rfl, rfl, rfl, by simp [Scan.ids], by simp⟩
  generalize ({ inventory := base } : Scan) = scan at hstart ⊢
  induction scanned generalizing scan with
  | nil => exact hstart
  | cons device scanned ih => exact ih _ (scanFrame_scanDevice hstart device)

theorem removePresent_present (self : DeviceInventory) (id other : DeviceId) :
    (self.removePresent id).present[other]? =
      if other = id then none else self.present[other]? := by
  unfold removePresent
  split
  · simp only [removeKnown, lookup_erase]
  · rename_i hnone
    split
    · rename_i h
      rw [h, hnone]
    · rfl

@[simp] theorem removePresent_presence (self : DeviceInventory) (id : DeviceId) :
    (self.removePresent id).presence = self.presence := by
  unfold removePresent
  split <;> rfl

@[simp] theorem removePresent_cells (self : DeviceInventory) (id : DeviceId) :
    (self.removePresent id).cells = self.cells := by
  unfold removePresent
  split <;> rfl

@[simp] theorem revokeToken_present (self : DeviceInventory) (id : DeviceId) :
    (self.revokeToken id).present = self.present := by
  unfold revokeToken
  split <;> rfl

theorem revokeToken_presence (self : DeviceInventory) (id other : DeviceId) :
    (self.revokeToken id).presence[other]? =
      if other = id then none else self.presence[other]? := by
  unfold revokeToken
  split
  · simp only [lookup_erase]
  · rename_i hnone
    split
    · rename_i h
      rw [h, hnone]
    · rfl

/-- A token is revoked: its flag is cleared. -/
def Revoked (self : DeviceInventory) (token : PresenceToken) : Prop :=
  self.cells[token]? = some false

theorem revokeToken_cells_length (self : DeviceInventory) (id : DeviceId) :
    (self.revokeToken id).cells.length = self.cells.length := by
  unfold revokeToken
  split
  · exact List.length_set
  · rfl

theorem Revoked.revokeToken {self : DeviceInventory} {token : PresenceToken}
    (h : self.Revoked token) (id : DeviceId) : (self.revokeToken id).Revoked token := by
  unfold Revoked at h ⊢
  unfold DeviceInventory.revokeToken
  split
  · rename_i token' _
    by_cases heq : token' = token
    · subst heq
      exact lookup_set_self h _
    · rw [List.getElem?_set_ne heq]
      exact h
  · exact h

theorem revoked_revokeToken {self : DeviceInventory} {id : DeviceId} {token : PresenceToken}
    (htoken : self.presence[id]? = some token) (hvalid : token < self.cells.length) :
    (self.revokeToken id).Revoked token := by
  unfold Revoked revokeToken
  rw [htoken]
  exact List.getElem?_set_self hvalid

theorem removeDevice_knownIds {self : DeviceInventory} {removed : DeviceId} {key : DeviceKey}
    {id : DeviceId} (h : (self.removeDevice removed).knownIds key = some id) :
    self.knownIds key = some id ∧
      ∀ device, self.present[removed]? = some device → device.key ≠ key := by
  have hsame : (self.removeDevice removed).knownIds = (self.removePresent removed).knownIds := by
    unfold removeDevice revokeToken
    split <;> rfl
  rw [hsame] at h
  unfold removePresent at h
  split at h
  · rename_i device hdevice
    simp only [removeKnown] at h
    split at h
    · cases h
    · rename_i hkey
      refine ⟨h, ?_⟩
      intro device' hdevice' heq
      rw [hdevice, Option.some.injEq] at hdevice'
      exact hkey (by rw [hdevice', heq])
  · rename_i hnone
    refine ⟨h, ?_⟩
    intro device hdevice
    rw [hnone] at hdevice
    cases hdevice

@[simp] theorem removeDevice_nextId (self : DeviceInventory) (id : DeviceId) :
    (self.removeDevice id).nextId = self.nextId := by
  have hpresent : (self.removePresent id).nextId = self.nextId := by
    unfold removePresent
    split <;> rfl
  unfold removeDevice revokeToken
  split <;> exact hpresent

/-- What the removal loop does. -/
structure RemovalSpec (removed : List DeviceId) (before after : DeviceInventory) : Prop where
  present : ∀ id : DeviceId,
    after.present[id]? = if id ∈ removed then none else before.present[id]?
  presence : ∀ id : DeviceId,
    after.presence[id]? = if id ∈ removed then none else before.presence[id]?
  cells : after.cells.length = before.cells.length
  revoked : ∀ token, before.Revoked token → after.Revoked token
  revokes : ∀ id ∈ removed, ∀ token, before.presence[id]? = some token →
    token < before.cells.length → after.Revoked token
  nextId : after.nextId = before.nextId
  knownIds : ∀ key id, after.knownIds key = some id → before.knownIds key = some id ∧
    ∀ gone ∈ removed, ∀ device, before.present[gone]? = some device → device.key ≠ key

theorem foldl_removeDevice (removed : List DeviceId) (self : DeviceInventory) :
    RemovalSpec removed self (removed.foldl removeDevice self) := by
  induction removed generalizing self with
  | nil => exact ⟨by simp, by simp, rfl, fun _ h => h, by simp, rfl, fun _ _ h => ⟨h, by simp⟩⟩
  | cons first removed ih =>
      have later := ih (self.removeDevice first)
      have hlength : (self.removeDevice first).cells.length = self.cells.length := by
        unfold removeDevice
        rw [revokeToken_cells_length, removePresent_cells]
      have hpresent : ∀ id : DeviceId, (self.removeDevice first).present[id]? =
          if id = first then none else self.present[id]? := by
        intro id
        rw [removeDevice, revokeToken_present, removePresent_present]
      have hpresence : ∀ id : DeviceId, (self.removeDevice first).presence[id]? =
          if id = first then none else self.presence[id]? := by
        intro id
        rw [removeDevice, revokeToken_presence, removePresent_presence]
      have hrevoked : ∀ token, self.Revoked token → (self.removeDevice first).Revoked token := by
        intro token h
        apply Revoked.revokeToken
        unfold Revoked at h ⊢
        rw [removePresent_cells]
        exact h
      rw [List.foldl_cons]
      refine ⟨?_, ?_, later.cells.trans hlength, fun token h => later.revoked token (hrevoked token h),
        ?_, later.nextId.trans (removeDevice_nextId self first), ?_⟩
      · intro id
        rw [later.present, hpresent]
        by_cases hid : id = first <;> by_cases hmem : id ∈ removed <;> simp [hid, hmem]
      · intro id
        rw [later.presence, hpresence]
        by_cases hid : id = first <;> by_cases hmem : id ∈ removed <;> simp [hid, hmem]
      · intro id hid token htoken hvalid
        by_cases hfirst : id = first
        · subst hfirst
          apply later.revoked
          apply revoked_revokeToken
          · rw [removePresent_presence]
            exact htoken
          · rw [removePresent_cells]
            exact hvalid
        · have hmem : id ∈ removed := (List.mem_cons.mp hid).resolve_left hfirst
          apply later.revokes id hmem token
          · rw [hpresence, if_neg hfirst]
            exact htoken
          · rw [hlength]
            exact hvalid
      · intro key id hknown
        obtain ⟨hknown', hlater⟩ := later.knownIds key id hknown
        obtain ⟨hbefore, hfirst⟩ := removeDevice_knownIds hknown'
        refine ⟨hbefore, ?_⟩
        intro gone hgone device hdevice
        by_cases heq : gone = first
        · subst heq
          exact hfirst device hdevice
        · apply hlater gone ((List.mem_cons.mp hgone).resolve_left heq) device
          rw [hpresent, if_neg heq]
          exact hdevice

theorem insertHost_present (self : DeviceInventory) (host : DeviceId × LocalDevice)
    (id : DeviceId) :
    (self.insertHost host).present[id]? =
      if id = host.1 then some host.2 else self.present[id]? := by
  unfold insertHost insertPresent
  split <;> simp only [lookup_insert, insertToken]

/-- A token that is in the table stays there, and a new host gets the next one. -/
theorem insertHost_presence (self : DeviceInventory) (host : DeviceId × LocalDevice)
    (id : DeviceId) :
    (self.insertHost host).presence[id]? =
      (self.presence[id]?).or (if id = host.1 then some self.cells.length else none) := by
  unfold insertHost insertPresent
  split
  · rename_i hmem
    obtain ⟨token, htoken⟩ := (mem_iff_lookup _ _).mp hmem
    by_cases hid : id = host.1
    · simp [hid, htoken]
    · simp [hid]
  · rename_i hmem
    have hnone : self.presence[host.1]? = none := (not_mem_iff_lookup _ _).mp hmem
    by_cases hid : id = host.1
    · simp [insertToken, hid, hnone]
    · simp [insertToken, lookup_insert, hid]

/-- The flags that exist are kept; a new one comes after them. -/
theorem insertHost_cells (self : DeviceInventory) (host : DeviceId × LocalDevice) :
    (self.insertHost host).cells =
      if host.1 ∈ self.presence then self.cells else self.cells ++ [true] := by
  unfold insertHost insertPresent
  split <;> rfl

/-- What the insertion loop does.  Of several hosts with one id the last is kept. -/
structure InsertionSpec (hosts : List (DeviceId × LocalDevice)) (before after : DeviceInventory) :
    Prop where
  present : ∀ id : DeviceId,
    after.present[id]? = before.present[id]? ∧ id ∉ hosts.map Prod.fst ∨
      ∃ device, (id, device) ∈ hosts ∧ after.present[id]? = some device
  token : ∀ (id : DeviceId) token, before.presence[id]? = some token →
    after.presence[id]? = some token
  presence : ∀ id, id ∈ after.presence ↔ id ∈ hosts.map Prod.fst ∨ id ∈ before.presence
  cells : before.cells <+: after.cells
  flag : (∀ (id : DeviceId) token, before.presence[id]? = some token →
      token < before.cells.length) →
    ∀ (id : DeviceId) token, after.presence[id]? = some token → token < after.cells.length
  nextId : after.nextId = before.nextId
  knownIds : after.knownIds = before.knownIds

theorem foldl_insertHost (hosts : List (DeviceId × LocalDevice)) (self : DeviceInventory) :
    InsertionSpec hosts self (hosts.foldl insertHost self) := by
  induction hosts generalizing self with
  | nil =>
      exact ⟨by simp, fun _ _ h => h, by simp, List.prefix_refl _, fun h => h, rfl, rfl⟩
  | cons host hosts ih =>
      have later := ih (self.insertHost host)
      have hcells : self.cells <+: (self.insertHost host).cells := by
        rw [insertHost_cells]
        split
        · exact List.prefix_refl _
        · exact List.prefix_append _ _
      have hrest : (self.insertHost host).nextId = self.nextId ∧
          (self.insertHost host).knownIds = self.knownIds := by
        unfold insertHost insertPresent
        split <;> exact ⟨rfl, rfl⟩
      rw [List.foldl_cons]
      refine ⟨?_, ?_, ?_, hcells.trans later.cells, ?_, later.nextId.trans hrest.1,
        later.knownIds.trans hrest.2⟩
      · intro id
        rcases later.present id with ⟨hsame, hnot⟩ | ⟨device, hdevice, hlast⟩
        · rw [insertHost_present] at hsame
          by_cases hid : id = host.1
          · refine .inr ⟨host.2, ?_, ?_⟩
            · rw [hid]
              exact List.mem_cons_self
            · rw [hsame, if_pos hid]
          · refine .inl ⟨?_, ?_⟩
            · rw [hsame, if_neg hid]
            · rw [List.map_cons, List.mem_cons]
              exact fun h => h.elim hid hnot
        · exact .inr ⟨device, List.mem_cons_of_mem _ hdevice, hlast⟩
      · intro id token htoken
        apply later.token
        rw [insertHost_presence, htoken, Option.some_or]
      · intro id
        rw [later.presence, List.map_cons, List.mem_cons, mem_iff_lookup, mem_iff_lookup,
          insertHost_presence]
        by_cases hid : id = host.1
        · simp only [hid, if_true, true_or, iff_true]
          cases self.presence[host.1]? with
          | none => exact .inr ⟨_, rfl⟩
          | some token => exact .inr ⟨token, rfl⟩
        · simp only [hid, if_false, Option.or_none, false_or]
      · intro hflag
        apply later.flag
        intro id token htoken
        rw [insertHost_presence] at htoken
        cases hbefore : self.presence[id]? with
        | some token' =>
            rw [hbefore, Option.some_or, Option.some.injEq] at htoken
            subst htoken
            exact Nat.lt_of_lt_of_le (hflag id token' hbefore) hcells.length_le
        | none =>
            rw [hbefore, Option.none_or] at htoken
            split at htoken
            · rename_i hid
              have hnew : host.1 ∉ self.presence := by
                rw [← hid, not_mem_iff_lookup]
                exact hbefore
              rw [Option.some.injEq] at htoken
              rw [insertHost_cells, if_neg hnew, List.length_append, ← htoken]
              exact Nat.lt_succ_self _
            · cases htoken

/-! ## The refresh as a whole -/

/-- The three loops of a refresh put together. -/
structure RefreshLoops (before after : DeviceInventory) (scan : Scan) (removed : List DeviceId) :
    Prop where
  frame : ScanFrame before scan
  disjoint : ∀ id ∈ removed, id ∉ scan.ids
  loops : ∃ middle, RemovalSpec removed scan.inventory middle ∧
    InsertionSpec scan.nextHosts middle after

theorem refreshHosts_loops (self : DeviceInventory) (scanned : List LocalDevice) :
    RefreshLoops self (self.refreshHosts scanned).2
      (scanned.foldl scanDevice { inventory := self }) (self.refreshHosts scanned).1.removed := by
  refine ⟨scanFrame_foldl self scanned, ?_, _, foldl_removeDevice _ _, foldl_insertHost _ _⟩
  intro id hid
  exact of_decide_eq_true (List.mem_filter.mp hid).2

section

variable {before after : DeviceInventory} {scan : Scan} {removed : List DeviceId}

theorem RefreshLoops.present (h : RefreshLoops before after scan removed) (id : DeviceId) :
    after.present[id]? = (if id ∈ removed then none else before.present[id]?) ∧ id ∉ scan.ids ∨
      ∃ device, (id, device) ∈ scan.nextHosts ∧ after.present[id]? = some device := by
  obtain ⟨middle, hremoval, hinsertion⟩ := h.loops
  rw [← h.frame.present, ← hremoval.present]
  exact hinsertion.present id

theorem RefreshLoops.mem_present (h : RefreshLoops before after scan removed) (id : DeviceId) :
    id ∈ after.present ↔ (id ∈ before.present ∧ id ∉ removed) ∨ id ∈ scan.ids := by
  rw [mem_iff_lookup, mem_iff_lookup]
  rcases h.present id with ⟨hsame, hnot⟩ | ⟨device, hdevice, hlast⟩
  · rw [hsame]
    by_cases hid : id ∈ removed <;> simp [hid, hnot]
  · have hids : id ∈ scan.ids := List.mem_map.mpr ⟨_, hdevice, rfl⟩
    simp only [hlast, hids, or_true, iff_true]
    exact ⟨device, rfl⟩

theorem Revoked.extend {token : PresenceToken} (hcells : before.cells <+: after.cells)
    (h : before.Revoked token) : after.Revoked token := by
  obtain ⟨more, hmore⟩ := hcells
  unfold Revoked at h ⊢
  rw [← hmore, List.getElem?_append_left (List.getElem?_eq_some_iff.mp h).1]
  exact h

end

/-- The tables agree: a device is stored under its own id, exactly the present
devices have a token, and a token has a flag. -/
structure WellFormed (inventory : DeviceInventory) : Prop where
  infoId : ∀ (id : DeviceId) device, inventory.present[id]? = some device → device.info.id = id
  presence : ∀ id, id ∈ inventory.presence ↔ id ∈ inventory.present
  flag : ∀ (id : DeviceId) token, inventory.presence[id]? = some token →
    token < inventory.cells.length

theorem mem_snapshot_iff (self : DeviceInventory) (device : LocalDevice) :
    device ∈ self.snapshot ↔ ∃ id : DeviceId, self.present[id]? = some device :=
  mem_values_iff _ _

/-- The present devices are those of the snapshot, each under its own id. -/
theorem WellFormed.lookup_iff {inventory : DeviceInventory} (h : inventory.WellFormed)
    (id : DeviceId) (device : LocalDevice) :
    inventory.present[id]? = some device ↔ device ∈ inventory.snapshot ∧ device.info.id = id := by
  rw [mem_snapshot_iff]
  constructor
  · exact fun hlookup => ⟨⟨id, hlookup⟩, h.infoId id device hlookup⟩
  · rintro ⟨⟨id', hlookup⟩, rfl⟩
    rw [h.infoId id' device hlookup]
    exact hlookup

theorem WellFormed.lookup_of_mem {inventory : DeviceInventory} (h : inventory.WellFormed)
    {device : LocalDevice} (mem : device ∈ inventory.snapshot) :
    inventory.present[device.info.id]? = some device := (h.lookup_iff _ _).mpr ⟨mem, rfl⟩

/-- The backend that `complete_session_urb` finds is that of the device present under the
id. -/
theorem WellFormed.find_snapshot {inventory : DeviceInventory} (h : inventory.WellFormed)
    {id : DeviceId} {backend : DeviceBackend}
    (hfind : (inventory.snapshot.find? fun device => device.info.id = id).map
      (fun device => device.backend) = some backend) :
    ∃ device, inventory.get id = some device ∧ device.backend = backend := by
  obtain ⟨device, hfound, hbackend⟩ := Option.map_eq_some_iff.mp hfind
  have hid : device.info.id = id := by simpa using List.find?_some hfound
  have hget := h.lookup_of_mem (List.mem_of_find?_eq_some hfound)
  rw [hid] at hget
  exact ⟨device, hget, hbackend⟩

theorem WellFormed.refreshHosts {self : DeviceInventory} (h : self.WellFormed)
    (scanned : List LocalDevice) : (self.refreshHosts scanned).2.WellFormed := by
  have hloops := refreshHosts_loops self scanned
  obtain ⟨middle, hremoval, hinsertion⟩ := hloops.loops
  generalize (self.refreshHosts scanned).2 = after at *
  generalize (self.refreshHosts scanned).1.removed = removed at *
  generalize scanned.foldl scanDevice { inventory := self } = scan at *
  refine ⟨?_, ?_, ?_⟩
  · intro id device hdevice
    rcases hloops.present id with ⟨hsame, -⟩ | ⟨device', hmem, hlast⟩
    · rw [hsame] at hdevice
      split at hdevice
      · cases hdevice
      · exact h.infoId id device hdevice
    · rw [hlast, Option.some.injEq] at hdevice
      rw [← hdevice]
      exact hloops.frame.infoId _ hmem
  · intro id
    rw [hloops.mem_present, hinsertion.presence, ← h.presence, mem_iff_lookup, hremoval.presence,
      hloops.frame.presence, mem_iff_lookup]
    by_cases hid : id ∈ removed <;> simp [hid, Scan.ids, or_comm]
  · apply hinsertion.flag
    intro id token htoken
    rw [hremoval.presence, hloops.frame.presence] at htoken
    rw [hremoval.cells, hloops.frame.cells]
    split at htoken
    · cases htoken
    · exact h.flag id token htoken

/-- What a refresh does to presence, as the rest of the server sees it. -/
structure RefreshSpec (before after : DeviceInventory) (delta : InventoryDelta) : Prop where
  kept : ∀ id, id ∈ before.present → id ∉ delta.removed → id ∈ after.present
  gone : ∀ id, id ∈ delta.removed → id ∉ after.present
  appeared : ∀ id, id ∈ after.present → id ∉ before.present → id ∈ delta.added
  added : ∀ id, id ∈ delta.added → id ∉ before.present ∧ id ∈ after.present
  token : ∀ (id : DeviceId) token, before.presence[id]? = some token → id ∉ delta.removed →
    after.presence[id]? = some token
  revoked : ∀ token, before.Revoked token → after.Revoked token
  revokes : ∀ id ∈ delta.removed, ∀ token, before.presence[id]? = some token →
    token < before.cells.length → after.Revoked token

theorem refreshHosts_spec (self : DeviceInventory) (scanned : List LocalDevice) :
    RefreshSpec self (self.refreshHosts scanned).2 (self.refreshHosts scanned).1 := by
  have hloops := refreshHosts_loops self scanned
  obtain ⟨middle, hremoval, hinsertion⟩ := hloops.loops
  have hadded : (self.refreshHosts scanned).1.added
      = (scanned.foldl scanDevice { inventory := self }).newIds := rfl
  refine ⟨?_, ?_, ?_, ?_, ?_, ?_, ?_⟩
  · intro id hbefore hid
    exact (hloops.mem_present id).mpr (.inl ⟨hbefore, hid⟩)
  · intro id hid hafter
    rcases (hloops.mem_present id).mp hafter with ⟨-, hnot⟩ | hids
    · exact hnot hid
    · exact hloops.disjoint id hid hids
  · intro id hafter hbefore
    rw [hadded, hloops.frame.newIds]
    rcases (hloops.mem_present id).mp hafter with ⟨hpresent, -⟩ | hids
    · exact absurd hpresent hbefore
    · exact ⟨hids, hbefore⟩
  · intro id hid
    rw [hadded, hloops.frame.newIds] at hid
    exact ⟨hid.2, (hloops.mem_present id).mpr (.inr hid.1)⟩
  · intro id token htoken hid
    apply hinsertion.token
    rw [hremoval.presence, if_neg hid, hloops.frame.presence]
    exact htoken
  · intro token h
    refine .extend hinsertion.cells (hremoval.revoked token ?_)
    unfold Revoked at h ⊢
    rw [hloops.frame.cells]
    exact h
  · intro id hid token htoken hvalid
    refine .extend hinsertion.cells (hremoval.revokes id hid token ?_ ?_)
    · rw [hloops.frame.presence]
      exact htoken
    · rw [hloops.frame.cells]
      exact hvalid

/-! ## Ids are not handed out twice -/

/-- The id counter has reached its last value. -/
def Saturated (self : DeviceInventory) : Prop := self.nextId = 0xffffffff

/-- A known key is that of a device present under the id, and present ids are
below the counter. -/
structure IdsFresh (inventory : DeviceInventory) : Prop where
  known : ∀ key id, inventory.knownIds key = some id →
    ∃ device, inventory.present[id]? = some device ∧ device.key = key
  below : ∀ id, id ∈ inventory.present → id < inventory.nextId

theorem le_saturatingSucc (n : UInt32) : n ≤ saturatingSucc n := by
  unfold saturatingSucc
  split
  · exact UInt32.le_refl _
  · rename_i h
    rw [UInt32.le_iff_toNat_le, UInt32.toNat_add]
    have hlt := n.toNat_lt
    have hne : n.toNat ≠ 4294967295 := fun heq => h (UInt32.toNat_inj.mp heq)
    have hone : (1 : UInt32).toNat = 1 := rfl
    omega

theorem lt_saturatingSucc {n : UInt32} (h : saturatingSucc n ≠ 0xffffffff) :
    n < saturatingSucc n := by
  unfold saturatingSucc at h ⊢
  split at h
  · rename_i heq
    exact absurd heq h
  · rename_i hne
    rw [if_neg hne, UInt32.lt_iff_toNat_lt, UInt32.toNat_add]
    have hlt := n.toNat_lt
    have hne' : n.toNat ≠ 4294967295 := fun heq => hne (UInt32.toNat_inj.mp heq)
    have hone : (1 : UInt32).toNat = 1 := rfl
    omega

/-- What the scan loop keeps about known ids while the counter is not saturated. -/
structure ScanFresh (base : DeviceInventory) (scan : Scan) : Prop where
  nextId : base.nextId ≤ scan.inventory.nextId
  known : ∀ key id, scan.inventory.knownIds key = some id →
    (∃ device, base.present[id]? = some device ∧ device.key = key) ∨
      base.nextId ≤ id ∧ id ∈ scan.ids
  below : ∀ key id, scan.inventory.knownIds key = some id → id < scan.inventory.nextId
  unique : ∀ key key' id, scan.inventory.knownIds key = some id →
    scan.inventory.knownIds key' = some id → key = key'
  hosts : ∀ host ∈ scan.nextHosts, scan.inventory.knownIds host.2.key = some host.1

theorem nextId_le_identify (self : DeviceInventory) (key : DeviceKey) :
    self.nextId ≤ (self.identify key).2.nextId := by
  unfold identify
  split
  · exact UInt32.le_refl _
  · exact le_saturatingSucc _

theorem nextId_le_foldl_scanDevice (scanned : List LocalDevice) (scan : Scan) :
    scan.inventory.nextId ≤ (scanned.foldl scanDevice scan).inventory.nextId := by
  induction scanned generalizing scan with
  | nil => exact UInt32.le_refl _
  | cons device scanned ih =>
      exact UInt32.le_trans (nextId_le_identify scan.inventory device.key)
        (ih (scanDevice scan device))

theorem not_saturated_of_le {n m : UInt32} (hle : n ≤ m) (hm : m ≠ 0xffffffff) :
    n ≠ 0xffffffff := by
  intro h
  rw [h, UInt32.le_iff_toNat_le] at hle
  have hlt := m.toNat_lt
  have hmax : (0xffffffff : UInt32).toNat = 4294967295 := rfl
  exact hm (UInt32.toNat_inj.mp (by omega))

/-- An id known before is found again; an unknown key gets the counter's. -/
theorem scanFresh_of_known {base : DeviceInventory} {scan : Scan} (h : ScanFresh base scan)
    {device : LocalDevice} {id : DeviceId} (hknown : scan.inventory.knownIds device.key = some id)
    {newIds : List DeviceId} :
    ScanFresh base ⟨scan.inventory, newIds, scan.nextHosts ++ [(id, device.withId id)]⟩ := by
  refine ⟨h.nextId, ?_, h.below, h.unique, ?_⟩
  · intro key id' hkey
    rcases h.known key id' hkey with hold | ⟨hle, hids⟩
    · exact .inl hold
    · refine .inr ⟨hle, ?_⟩
      unfold Scan.ids
      rw [List.map_append]
      exact List.mem_append_left _ hids
  · intro host hhost
    rcases List.mem_append.mp hhost with hhost | hhost
    · exact h.hosts host hhost
    · rw [List.mem_singleton] at hhost
      rw [hhost]
      exact hknown

theorem scanFresh_of_unknown {base : DeviceInventory} {scan : Scan} (h : ScanFresh base scan)
    {device : LocalDevice} (hknown : scan.inventory.knownIds device.key = none)
    {newIds : List DeviceId} (hnext : saturatingSucc scan.inventory.nextId ≠ 0xffffffff) :
    ScanFresh base ⟨scan.inventory.allocateId.2.insertKnown device.key scan.inventory.nextId,
      newIds, scan.nextHosts ++ [(scan.inventory.nextId, device.withId scan.inventory.nextId)]⟩ := by
  have hlt := lt_saturatingSucc hnext
  -- the id just allocated is above every id known before
  have hfresh : ∀ key, scan.inventory.knownIds key ≠ some scan.inventory.nextId :=
    fun key heq => UInt32.lt_irrefl _ (h.below key _ heq)
  have hinsert : ∀ key id,
      (scan.inventory.allocateId.2.insertKnown device.key scan.inventory.nextId).knownIds key
        = some id →
      key = device.key ∧ id = scan.inventory.nextId ∨ scan.inventory.knownIds key = some id := by
    intro key id hkey
    simp only [insertKnown, allocateId] at hkey
    split at hkey
    · rename_i heq
      exact .inl ⟨heq, (Option.some.inj hkey).symm⟩
    · exact .inr hkey
  refine ⟨UInt32.le_trans h.nextId (le_saturatingSucc _), ?_, ?_, ?_, ?_⟩
  · intro key id hkey
    unfold Scan.ids
    rw [List.map_append, List.mem_append]
    rcases hinsert key id hkey with ⟨-, rfl⟩ | hkey
    · exact .inr ⟨h.nextId, .inr (by simp)⟩
    · rcases h.known key id hkey with hold | ⟨hle, hids⟩
      · exact .inl hold
      · exact .inr ⟨hle, .inl hids⟩
  · intro key id hkey
    rcases hinsert key id hkey with ⟨-, rfl⟩ | hkey
    · exact hlt
    · exact UInt32.lt_trans (h.below key id hkey) hlt
  · intro key key' id hkey hkey'
    rcases hinsert key id hkey with ⟨hsame, rfl⟩ | hkey
    · rcases hinsert key' _ hkey' with ⟨hsame', -⟩ | hkey'
      · rw [hsame, hsame']
      · exact absurd hkey' (hfresh key')
    · rcases hinsert key' id hkey' with ⟨-, rfl⟩ | hkey'
      · exact absurd hkey (hfresh key)
      · exact h.unique key key' id hkey hkey'
  · intro host hhost
    simp only [insertKnown, allocateId]
    rcases List.mem_append.mp hhost with hhost | hhost
    · have hhost' := h.hosts host hhost
      have hne : host.2.key ≠ device.key := by
        intro heq
        rw [heq, hknown] at hhost'
        cases hhost'
      rw [if_neg hne]
      exact hhost'
    · rw [List.mem_singleton] at hhost
      rw [hhost, LocalDevice.key_withId, if_pos rfl]

theorem scanFresh_scanDevice {base : DeviceInventory} {scan : Scan} (h : ScanFresh base scan)
    (device : LocalDevice) (hnext : ¬ (scanDevice scan device).inventory.Saturated) :
    ScanFresh base (scanDevice scan device) := by
  cases hknown : scan.inventory.knownIds device.key with
  | some id =>
      simp only [scanDevice, identify_of_known hknown]
      exact scanFresh_of_known h hknown
  | none =>
      simp only [scanDevice, identify_of_unknown hknown] at hnext ⊢
      exact scanFresh_of_unknown h hknown hnext

theorem scanFresh_foldl {base : DeviceInventory} {scan : Scan} (h : ScanFresh base scan)
    (scanned : List LocalDevice)
    (hnext : ¬ (scanned.foldl scanDevice scan).inventory.Saturated) :
    ScanFresh base (scanned.foldl scanDevice scan) := by
  induction scanned generalizing scan with
  | nil => exact h
  | cons device scanned ih =>
      have hstep := nextId_le_foldl_scanDevice scanned (scanDevice scan device)
      exact ih (scanFresh_scanDevice h device (not_saturated_of_le hstep hnext)) hnext

theorem refreshHosts_nextId (self : DeviceInventory) (scanned : List LocalDevice) :
    (self.refreshHosts scanned).2.nextId
      = (scanned.foldl scanDevice { inventory := self }).inventory.nextId := by
  obtain ⟨middle, hremoval, hinsertion⟩ := (refreshHosts_loops self scanned).loops
  rw [hinsertion.nextId, hremoval.nextId]

theorem nextId_le_refreshHosts (self : DeviceInventory) (scanned : List LocalDevice) :
    self.nextId ≤ (self.refreshHosts scanned).2.nextId := by
  rw [refreshHosts_nextId]
  exact nextId_le_foldl_scanDevice scanned { inventory := self }

theorem IdsFresh.scanFresh {self : DeviceInventory} (h : self.IdsFresh)
    (scanned : List LocalDevice) (hnext : ¬ (self.refreshHosts scanned).2.Saturated) :
    ScanFresh self (scanned.foldl scanDevice { inventory := self }) := by
  unfold Saturated at hnext
  rw [refreshHosts_nextId] at hnext
  apply scanFresh_foldl _ scanned hnext
  refine ⟨UInt32.le_refl _, fun key id hkey => .inl (h.known key id hkey), ?_, ?_, by simp⟩
  · intro key id hkey
    obtain ⟨device, hdevice, -⟩ := h.known key id hkey
    exact h.below id ((mem_iff_lookup _ _).mpr ⟨device, hdevice⟩)
  · intro key key' id hkey hkey'
    obtain ⟨device, hdevice, hdevicekey⟩ := h.known key id hkey
    obtain ⟨device', hdevice', hdevicekey'⟩ := h.known key' id hkey'
    rw [hdevice, Option.some.injEq] at hdevice'
    rw [← hdevicekey, ← hdevicekey', hdevice']

/-- An id that a refresh adds was never below the counter. -/
theorem IdsFresh.nextId_le_added {self : DeviceInventory} (h : self.IdsFresh)
    (scanned : List LocalDevice) (hnext : ¬ (self.refreshHosts scanned).2.Saturated)
    {id : DeviceId} (hid : id ∈ (self.refreshHosts scanned).1.added) : self.nextId ≤ id := by
  have hfresh := h.scanFresh scanned hnext
  obtain ⟨hids, habsent⟩ := ((scanFrame_foldl self scanned).newIds id).mp hid
  obtain ⟨host, hhost, rfl⟩ := List.mem_map.mp hids
  rcases hfresh.known _ _ (hfresh.hosts host hhost) with ⟨device, hdevice, -⟩ | ⟨hle, -⟩
  · exact absurd ((mem_iff_lookup _ _).mpr ⟨device, hdevice⟩) habsent
  · exact hle

theorem IdsFresh.refreshHosts {self : DeviceInventory} (h : self.IdsFresh)
    (scanned : List LocalDevice) (hnext : ¬ (self.refreshHosts scanned).2.Saturated) :
    (self.refreshHosts scanned).2.IdsFresh := by
  have hfresh := h.scanFresh scanned hnext
  have hloops := refreshHosts_loops self scanned
  obtain ⟨middle, hremoval, hinsertion⟩ := hloops.loops
  have hnextId := refreshHosts_nextId self scanned
  generalize (self.refreshHosts scanned).2 = after at *
  generalize (self.refreshHosts scanned).1.removed = removed at *
  generalize scanned.foldl scanDevice { inventory := self } = scan at *
  refine ⟨?_, ?_⟩
  · intro key id hkey
    rw [hinsertion.knownIds] at hkey
    obtain ⟨hscan, hgone⟩ := hremoval.knownIds key id hkey
    rcases hloops.present id with ⟨hsame, hnot⟩ | ⟨device, hmem, hlast⟩
    · -- not scanned: the device was there before, and was not removed with its key
      rcases hfresh.known key id hscan with ⟨device, hdevice, hdevicekey⟩ | ⟨-, hids⟩
      · refine ⟨device, ?_, hdevicekey⟩
        rw [hsame, if_neg, hdevice]
        intro hid
        rw [← hloops.frame.present] at hdevice
        exact hgone id hid device hdevice hdevicekey
      · exact absurd hids hnot
    · exact ⟨device, hlast, hfresh.unique _ _ id (hfresh.hosts _ hmem) hscan⟩
  · intro id hid
    rw [hnextId]
    rcases (hloops.mem_present id).mp hid with ⟨hbefore, -⟩ | hids
    · exact UInt32.lt_of_lt_of_le (h.below id hbefore) hfresh.nextId
    · obtain ⟨host, hhost, rfl⟩ := List.mem_map.mp hids
      exact hfresh.below _ _ (hfresh.hosts host hhost)

/-! ## The initial inventory -/

/-- The tables after one initial device, whatever its id came to be. -/
theorem addInitial_tables (self : DeviceInventory) (device : LocalDevice) :
    let id := (self.initialId device.info.id).1
    (self.addInitial device).present = self.present.insert id (device.withId id) ∧
      (self.addInitial device).presence = self.presence.insert id self.cells.length ∧
      (self.addInitial device).cells = self.cells ++ [true] ∧
      (self.addInitial device).nextId = (self.initialId device.info.id).2.nextId ∧
      ∀ key, (self.addInitial device).knownIds key =
        if key = device.key then some id else self.knownIds key := by
  unfold addInitial initialId
  split <;> exact ⟨rfl, rfl, rfl, rfl, fun _ => rfl⟩

theorem WellFormed.addInitial {self : DeviceInventory} (h : self.WellFormed)
    (device : LocalDevice) : (self.addInitial device).WellFormed := by
  obtain ⟨hpresent, hpresence, hcells, -, -⟩ := addInitial_tables self device
  generalize (self.initialId device.info.id).1 = id at *
  refine ⟨?_, ?_, ?_⟩
  · intro id' device' hdevice
    rw [hpresent, lookup_insert] at hdevice
    split at hdevice
    · rename_i heq
      rw [← Option.some.inj hdevice, heq]
      exact LocalDevice.id_withId device id
    · exact h.infoId id' device' hdevice
  · intro id'
    rw [hpresent, hpresence, Std.ExtTreeMap.mem_insert, Std.ExtTreeMap.mem_insert, h.presence]
  · intro id' token htoken
    rw [hcells, List.length_append]
    rw [hpresence, lookup_insert] at htoken
    split at htoken
    · rw [← Option.some.inj htoken]
      exact Nat.lt_succ_self _
    · exact Nat.lt_succ_of_lt (h.flag id' token htoken)

theorem wellFormed_new (devices : List LocalDevice) : (new devices).WellFormed := by
  have hempty : ({} : DeviceInventory).WellFormed := ⟨by simp, by simp, by simp⟩
  unfold new
  generalize ({} : DeviceInventory) = inventory at hempty ⊢
  induction devices generalizing inventory with
  | nil => exact hempty
  | cons device devices ih => exact ih _ (hempty.addInitial device)

theorem le_max_counter (n m : UInt32) : n ≤ max n m ∧ m ≤ max n m := by
  have hmax : max n m = if n ≤ m then m else n := rfl
  rw [hmax]
  split
  · rename_i h
    exact ⟨h, UInt32.le_refl _⟩
  · rename_i h
    exact ⟨UInt32.le_refl _, UInt32.le_of_lt (UInt32.not_le.mp h)⟩

theorem nextId_le_addInitial (self : DeviceInventory) (device : LocalDevice) :
    self.nextId ≤ (self.addInitial device).nextId := by
  rw [(addInitial_tables self device).2.2.2.1]
  unfold initialId
  split
  · exact (le_max_counter _ _).1
  · exact le_saturatingSucc _

theorem nextId_le_foldl_addInitial (devices : List LocalDevice) (self : DeviceInventory) :
    self.nextId ≤ (devices.foldl DeviceInventory.addInitial self).nextId := by
  induction devices generalizing self with
  | nil => exact UInt32.le_refl _
  | cons device devices ih =>
      exact UInt32.le_trans (nextId_le_addInitial self device) (ih (self.addInitial device))

/-- The id an initial device gets is not in use, and the counter is past it. -/
theorem IdsFresh.initialId {self : DeviceInventory} (h : self.IdsFresh) (device : LocalDevice)
    (hnext : ¬ (self.addInitial device).Saturated) :
    (self.initialId device.info.id).1 ∉ self.present ∧
      (self.initialId device.info.id).1 < (self.initialId device.info.id).2.nextId := by
  unfold Saturated at hnext
  rw [(addInitial_tables self device).2.2.2.1] at hnext
  unfold DeviceInventory.initialId at hnext ⊢
  split
  · rename_i hrequested
    rw [if_pos hrequested] at hnext
    refine ⟨hrequested.2, ?_⟩
    have hle := (le_max_counter self.nextId (saturatingSucc device.info.id)).2
    exact UInt32.lt_of_lt_of_le (lt_saturatingSucc (not_saturated_of_le hle hnext)) hle
  · rename_i hrequested
    rw [if_neg hrequested] at hnext
    exact ⟨fun hmem => UInt32.lt_irrefl _ (h.below _ hmem), lt_saturatingSucc hnext⟩

theorem IdsFresh.addInitial {self : DeviceInventory} (h : self.IdsFresh) (device : LocalDevice)
    (hnext : ¬ (self.addInitial device).Saturated) : (self.addInitial device).IdsFresh := by
  have hid := h.initialId device hnext
  obtain ⟨hpresent, -, -, hnextId, hknown⟩ := addInitial_tables self device
  have hle := nextId_le_addInitial self device
  generalize (self.initialId device.info.id).1 = id at *
  refine ⟨?_, ?_⟩
  · intro key id' hkey
    rw [hpresent, lookup_insert]
    rw [hknown] at hkey
    split at hkey
    · rename_i heq
      rw [← Option.some.inj hkey, if_pos rfl]
      exact ⟨_, rfl, heq.symm⟩
    · obtain ⟨device', hdevice', hkey'⟩ := h.known key id' hkey
      have hne : id' ≠ id := fun heq => hid.1 (heq ▸ (mem_iff_lookup _ _).mpr ⟨_, hdevice'⟩)
      rw [if_neg hne]
      exact ⟨device', hdevice', hkey'⟩
  · intro id' hid'
    rw [hpresent, Std.ExtTreeMap.mem_insert, Std.LawfulEqOrd.compare_eq_iff_eq] at hid'
    rcases hid' with rfl | hmem
    · rw [hnextId]
      exact hid.2
    · exact UInt32.lt_of_lt_of_le (h.below id' hmem) hle

theorem idsFresh_new (devices : List LocalDevice) (hnext : ¬ (new devices).Saturated) :
    (new devices).IdsFresh := by
  have hempty : ({} : DeviceInventory).IdsFresh := ⟨by simp, by simp⟩
  unfold new at hnext ⊢
  generalize ({} : DeviceInventory) = inventory at hempty hnext ⊢
  induction devices generalizing inventory with
  | nil => exact hempty
  | cons device devices ih =>
      have hstep := nextId_le_foldl_addInitial devices (inventory.addInitial device)
      exact ih _ (hempty.addInitial device (not_saturated_of_le hstep hnext)) hnext

/-- A device that asks for an id that is free gets it. -/
theorem lookup_addInitial {self : DeviceInventory} {device : LocalDevice}
    (hid : device.info.id ≠ 0) (hfree : device.info.id ∉ self.present) (id : DeviceId) :
    (self.addInitial device).present[id]? =
      if id = device.info.id then some device else self.present[id]? := by
  have hrequested : (self.initialId device.info.id).1 = device.info.id := by
    unfold initialId
    rw [if_pos ⟨hid, hfree⟩]
  rw [(addInitial_tables self device).1, lookup_insert, hrequested]
  rfl

/-- Devices with ids of their own keep them. -/
theorem mem_snapshot_new {devices : List LocalDevice}
    (hid : ∀ device ∈ devices, device.info.id ≠ 0)
    (hids : (devices.map fun device => device.info.id).Nodup) (device : LocalDevice) :
    device ∈ (new devices).snapshot ↔ device ∈ devices := by
  have hlookup : ∀ (inventory : DeviceInventory),
      (∀ device ∈ devices, device.info.id ∉ inventory.present) → ∀ id : DeviceId,
      (devices.foldl addInitial inventory).present[id]? = some device ↔
        (device ∈ devices ∧ device.info.id = id) ∨ inventory.present[id]? = some device := by
    induction devices with
    | nil => simp
    | cons first devices ih =>
        intro inventory hfree id
        obtain ⟨hfirst, hrest⟩ := List.forall_mem_cons.mp hid
        obtain ⟨hfreeFirst, hfreeRest⟩ := List.forall_mem_cons.mp hfree
        rw [List.map_cons, List.nodup_cons] at hids
        have hadd := lookup_addInitial hfirst hfreeFirst
        rw [List.foldl_cons, ih hrest hids.2, hadd, List.mem_cons]
        · rw [not_mem_iff_lookup] at hfreeFirst
          split
          · rename_i heq
            subst heq
            rw [hfreeFirst]
            grind
          · grind
        · intro other mem
          rw [not_mem_iff_lookup, hadd, if_neg, ← not_mem_iff_lookup]
          · exact hfreeRest other mem
          · intro heq
            exact hids.1 (heq ▸ List.mem_map_of_mem mem)
  have hempty : ∀ id : DeviceId, ({} : DeviceInventory).present[id]? = none := by simp
  rw [mem_snapshot_iff, new]
  simp only [hlookup {} (by simp), hempty, reduceCtorEq, or_false]
  grind

theorem length_snapshot_new_le {devices : List LocalDevice}
    (hid : ∀ device ∈ devices, device.info.id ≠ 0)
    (hids : (devices.map fun device => device.info.id).Nodup) :
    (new devices).snapshot.length ≤ devices.length := by
  have hnodup : (new devices).snapshot.Nodup :=
    (nodup_map_values _ _ (wellFormed_new devices).infoId).of_map
  exact (List.subperm_of_subset hnodup fun device => (mem_snapshot_new hid hids device).mp).length_le

end DeviceInventory

end FarBus.Core
