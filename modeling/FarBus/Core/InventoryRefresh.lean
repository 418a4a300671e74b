/-
  Core/InventoryRefresh.lean --- what a refresh of the inventory leaves behind, for a scan
  of host devices with distinct keys.

  The scan loop finds the id of every known key and gives the unknown keys the next values
  of the counter, in the order of the scan (`ScanAssigns`).  From this follow the tables
  after a refresh, entry by entry, and what the refresh reports.
-/
import Mathlib.Data.List.Perm.Basic
import Mathlib.Data.List.Induction
import Mathlib.Data.List.Nodup
import Mathlib.Logic.Function.Iterate
import FarBus.Core.DeviceIds
import FarBus.Core.PresenceTokens

set_option autoImplicit false

namespace FarBus.Core

open FarBus.Foundation
open FarBus.Protocol

namespace DeviceInventory

/-- A scan of host devices with distinct keys. -/
structure HostScan (scanned : List LocalDevice) : Prop where
  host : ∀ device ∈ scanned, device.backend = .host
  keys : (scanned.map LocalDevice.key).Nodup

/-- The id that a key is known under. -/
def idOf (self : DeviceInventory) (key : DeviceKey) : DeviceId := (self.knownIds key).getD 0

/-- The scanned devices whose keys are not known. -/
def unknown (self : DeviceInventory) (scanned : List LocalDevice) : List LocalDevice :=
  scanned.filter fun device => self.knownIds device.key = none

/-- The next `n` values of the counter. -/
def freshIds (self : DeviceInventory) (n : Nat) : List DeviceId :=
  (List.range n).map fun i => saturatingSucc^[i] self.nextId

/-! ## The scan loop -/

/-- What the scan loop has done after `scanned`. -/
structure ScanAssigns (base : DeviceInventory) (scanned : List LocalDevice) (scan : Scan) :
    Prop where
  known : ∀ device ∈ scanned, (scan.inventory.knownIds device.key).isSome = true
  others : ∀ key, key ∉ scanned.map LocalDevice.key →
    scan.inventory.knownIds key = base.knownIds key
  hosts : scan.nextHosts = scanned.map fun device =>
    (scan.inventory.idOf device.key, device.withId (scan.inventory.idOf device.key))
  newIds : scan.newIds = base.freshIds (base.unknown scanned).length
  nextId : scan.inventory.nextId = saturatingSucc^[(base.unknown scanned).length] base.nextId

theorem idOf_of_known {self : DeviceInventory} {key : DeviceKey} {id : DeviceId}
    (h : self.knownIds key = some id) : self.idOf key = id := by
  rw [idOf, h, Option.getD_some]

theorem freshIds_succ (self : DeviceInventory) (n : Nat) :
    self.freshIds (n + 1) = self.freshIds n ++ [saturatingSucc^[n] self.nextId] := by
  rw [freshIds, List.range_succ, List.map_append]
  rfl

theorem nextId_le_iterate (n : UInt32) (i : Nat) : n ≤ saturatingSucc^[i] n := by
  induction i with
  | zero => exact UInt32.le_refl _
  | succ i ih =>
      rw [Function.iterate_succ_apply']
      exact UInt32.le_trans ih (le_saturatingSucc _)

/-- The key has the id that was found, and the other keys are as before. -/
theorem knownIds_identify (self : DeviceInventory) (key other : DeviceKey) :
    (self.identify key).2.knownIds other =
      if other = key then some (self.identify key).1 else self.knownIds other := by
  unfold identify
  split
  · rename_i id hknown
    split
    · rename_i heq
      rw [heq, hknown]
    · rfl
  · rfl

theorem unknown_concat (self : DeviceInventory) (scanned : List LocalDevice)
    (device : LocalDevice) :
    self.unknown (scanned ++ [device]) =
      self.unknown scanned ++ if self.knownIds device.key = none then [device] else [] := by
  unfold unknown
  rw [List.filter_append, List.filter_singleton]
  by_cases h : self.knownIds device.key = none <;> simp [h]

section

variable {base : DeviceInventory} {scanned : List LocalDevice} {scan : Scan} {device : LocalDevice}

/-- The keys of the scan so far keep their ids. -/
theorem knownIds_scanDevice (hkey : device.key ∉ scanned.map LocalDevice.key) :
    ∀ device' ∈ scanned, (scanDevice scan device).inventory.knownIds device'.key =
      scan.inventory.knownIds device'.key := by
  intro device' hmem
  have hne : device'.key ≠ device.key := by
    intro heq
    rw [← heq] at hkey
    exact hkey (List.mem_map_of_mem hmem)
  rw [scanDevice, knownIds_identify, if_neg hne]

theorem ScanAssigns.hosts_concat (h : ScanAssigns base scanned scan)
    (hkey : device.key ∉ scanned.map LocalDevice.key) :
    (scanDevice scan device).nextHosts = (scanned ++ [device]).map fun device' =>
      ((scanDevice scan device).inventory.idOf device'.key,
        device'.withId ((scanDevice scan device).inventory.idOf device'.key)) := by
  have hself : (scanDevice scan device).inventory.idOf device.key =
      (scan.inventory.identify device.key).1 :=
    idOf_of_known (by rw [scanDevice, knownIds_identify, if_pos rfl])
  have hmap : (scanned.map fun device' =>
      ((scanDevice scan device).inventory.idOf device'.key,
        device'.withId ((scanDevice scan device).inventory.idOf device'.key))) =
      scan.nextHosts := by
    rw [h.hosts]
    apply List.map_congr_left
    intro device' hmem
    rw [idOf, knownIds_scanDevice hkey device' hmem]
    rfl
  rw [List.map_append, List.map_singleton, hmap, hself]
  rfl

/-- An id is handed out as new exactly where the key was unknown. -/
theorem ScanAssigns.newIds_concat (h : ScanAssigns base scanned scan)
    (hframe : ScanFrame base scan) (hfresh : base.IdsFresh)
    (hkey : device.key ∉ scanned.map LocalDevice.key) :
    (scanDevice scan device).newIds =
      base.freshIds (base.unknown (scanned ++ [device])).length := by
  have hbase := h.others device.key hkey
  have hpresent : (scan.inventory.identify device.key).2.present = base.present := by
    rw [(identify_frame scan.inventory device.key).1, hframe.present]
  rw [unknown_concat, ← hbase]
  show (if (scan.inventory.identify device.key).1 ∈ (scan.inventory.identify device.key).2.present
    then scan.newIds else scan.newIds ++ [(scan.inventory.identify device.key).1]) = _
  rw [hpresent]
  cases hid : scan.inventory.knownIds device.key with
  | some id =>
      have hknownBase := hid
      rw [hbase] at hknownBase
      obtain ⟨device', hlookup, -⟩ := hfresh.known _ _ hknownBase
      rw [identify_of_known hid, if_pos ((mem_iff_lookup _ _).mpr ⟨device', hlookup⟩),
        if_neg (Option.some_ne_none id), List.append_nil, h.newIds]
  | none =>
      have habsent : scan.inventory.nextId ∉ base.present := by
        intro hmem
        have hbelow := hfresh.below _ hmem
        rw [h.nextId] at hbelow
        exact UInt32.lt_irrefl _ (UInt32.lt_of_lt_of_le hbelow (nextId_le_iterate _ _))
      rw [identify_of_unknown hid, if_neg habsent, if_pos rfl, List.length_append,
        List.length_singleton, freshIds_succ, ← h.newIds, ← h.nextId]

theorem ScanAssigns.nextId_concat (h : ScanAssigns base scanned scan)
    (hkey : device.key ∉ scanned.map LocalDevice.key) :
    (scanDevice scan device).inventory.nextId =
      saturatingSucc^[(base.unknown (scanned ++ [device])).length] base.nextId := by
  rw [unknown_concat, ← h.others device.key hkey]
  show (scan.inventory.identify device.key).2.nextId = _
  cases hid : scan.inventory.knownIds device.key with
  | some id =>
      rw [identify_of_known hid, if_neg (Option.some_ne_none id), List.append_nil, h.nextId]
  | none =>
      rw [identify_of_unknown hid, if_pos rfl, List.length_append, List.length_singleton,
        Function.iterate_succ_apply', ← h.nextId]
      rfl

/-- One more device: its key is known already, or the counter gives it an id. -/
theorem ScanAssigns.concat (h : ScanAssigns base scanned scan) (hframe : ScanFrame base scan)
    (hfresh : base.IdsFresh) (hkey : device.key ∉ scanned.map LocalDevice.key) :
    ScanAssigns base (scanned ++ [device]) (scanDevice scan device) := by
  refine ⟨?_, ?_, h.hosts_concat hkey, h.newIds_concat hframe hfresh hkey, h.nextId_concat hkey⟩
  · intro device' hmem
    rcases List.mem_append.mp hmem with hmem | hmem
    · rw [knownIds_scanDevice hkey device' hmem]
      exact h.known device' hmem
    · rw [List.mem_singleton.mp hmem, scanDevice, knownIds_identify, if_pos rfl]
      rfl
  · intro key hother
    rw [List.map_append, List.mem_append, not_or, List.map_singleton, List.mem_singleton] at hother
    rw [scanDevice, knownIds_identify, if_neg hother.2]
    exact h.others key hother.1

end

theorem scanAssigns {base : DeviceInventory} (hfresh : base.IdsFresh) {scanned : List LocalDevice}
    (hkeys : (scanned.map LocalDevice.key).Nodup) :
    ScanAssigns base scanned (scanned.foldl scanDevice { inventory := base }) := by
  induction scanned using List.reverseRecOn with
  | nil => exact ⟨by simp, fun _ _ => rfl, rfl, rfl, rfl⟩
  | append_singleton scanned device ih =>
      rw [List.map_append, List.nodup_append] at hkeys
      rw [List.foldl_concat]
      apply (ih hkeys.1).concat (scanFrame_foldl base scanned) hfresh
      intro hmem
      exact hkeys.2.2 _ hmem _ (by simp) rfl

/-! ## The tables after a refresh -/

/-- The three tables are in bijection, tokens are set, and the counter is above all ids. -/
structure Coherent (inventory : DeviceInventory) : Prop where
  device : ∀ (id : DeviceId) device, inventory.present[id]? = some device →
    device.info.id = id ∧ inventory.knownIds device.key = some id ∧
      ∃ token, inventory.presence[id]? = some token ∧ inventory.load token = true
  known : ∀ key id, inventory.knownIds key = some id →
    ∃ device, inventory.present[id]? = some device ∧ device.key = key
  token : ∀ id, id ∈ inventory.presence → id ∈ inventory.present
  below : ∀ id, id ∈ inventory.present → id < inventory.nextId

/-- What the invariants of the loops say together. -/
theorem coherent {self : DeviceInventory} (hformed : self.WellFormed) (hfresh : self.IdsFresh)
    (hlisted : self.Listed) (htokened : self.Tokened) : self.Coherent := by
  refine ⟨?_, hfresh.known, fun id => (hformed.presence id).mp, hfresh.below⟩
  intro id device hlookup
  have hmem := (hformed.presence id).mpr ((mem_iff_lookup _ _).mpr ⟨device, hlookup⟩)
  obtain ⟨token, htoken⟩ := (mem_iff_lookup _ _).mp hmem
  refine ⟨hformed.infoId id device hlookup, hlisted id device hlookup, token, htoken, ?_⟩
  rw [load, List.getD_eq_getElem?_getD, htokened.set id token htoken]
  rfl

/-- What a refresh starts from and is given. -/
structure Refreshable (before : DeviceInventory) (scanned : List LocalDevice) : Prop where
  formed : before.WellFormed
  fresh : before.IdsFresh
  listed : before.Listed
  scan : HostScan scanned
  next : ¬ (before.refreshHosts scanned).2.Saturated

section

variable {self : DeviceInventory} {scanned : List LocalDevice}

/-- The state of the scan loop when it has ended. -/
def scanAll (self : DeviceInventory) (scanned : List LocalDevice) : Scan :=
  scanned.foldl scanDevice { inventory := self }

theorem Refreshable.assigns (h : self.Refreshable scanned) :
    ScanAssigns self scanned (self.scanAll scanned) := scanAssigns h.fresh h.scan.keys

theorem Refreshable.knownIds (h : self.Refreshable scanned) {device : LocalDevice}
    (mem : device ∈ scanned) : (self.scanAll scanned).inventory.knownIds device.key =
      some ((self.scanAll scanned).inventory.idOf device.key) := by
  obtain ⟨id, hid⟩ := Option.isSome_iff_exists.mp (h.assigns.known device mem)
  rw [hid, idOf_of_known hid]

theorem Refreshable.mem_ids (h : self.Refreshable scanned) (id : DeviceId) :
    id ∈ (self.scanAll scanned).ids ↔
      ∃ device ∈ scanned, (self.scanAll scanned).inventory.idOf device.key = id := by
  unfold Scan.ids
  rw [h.assigns.hosts, List.map_map, List.mem_map]
  rfl

/-- Distinct scanned devices get distinct ids. -/
theorem Refreshable.idOf_inj (h : self.Refreshable scanned) {device device' : LocalDevice}
    (mem : device ∈ scanned) (mem' : device' ∈ scanned)
    (hid : (self.scanAll scanned).inventory.idOf device.key =
      (self.scanAll scanned).inventory.idOf device'.key) : device = device' := by
  have hknown := h.knownIds mem
  rw [hid] at hknown
  have hkey := (h.fresh.scanFresh scanned h.next).unique _ _ _ hknown (h.knownIds mem')
  exact List.inj_on_of_nodup_map h.scan.keys mem mem' hkey

/-- A scanned device is present afterwards, with its id filled in. -/
theorem Refreshable.lookup_scanned (h : self.Refreshable scanned) {device : LocalDevice}
    (mem : device ∈ scanned) :
    (self.refreshHosts scanned).2.present[(self.scanAll scanned).inventory.idOf device.key]? =
      some (device.withId ((self.scanAll scanned).inventory.idOf device.key)) := by
  have hids := (h.mem_ids _).mpr ⟨device, mem, rfl⟩
  rcases (refreshHosts_loops self scanned).present
    ((self.scanAll scanned).inventory.idOf device.key) with ⟨-, hnot⟩ | ⟨found, hmem, hlookup⟩
  · exact absurd hids hnot
  · have hhosts := h.assigns.hosts
    unfold scanAll at hhosts
    rw [hhosts] at hmem
    obtain ⟨device', mem', heq⟩ := List.mem_map.mp hmem
    obtain ⟨hid, rfl⟩ := Prod.mk.inj heq
    rw [hlookup, h.idOf_inj mem' mem hid]
    rfl

/-- An id that was not scanned keeps its device, unless it is removed. -/
theorem lookup_unscanned {id : DeviceId} (hid : id ∉ (self.scanAll scanned).ids) :
    (self.refreshHosts scanned).2.present[id]? =
      if id ∈ (self.refreshHosts scanned).1.removed then none else self.present[id]? := by
  rcases (refreshHosts_loops self scanned).present id with ⟨hsame, -⟩ | ⟨device, hmem, -⟩
  · exact hsame
  · exact absurd (List.mem_map.mpr ⟨_, hmem, rfl⟩) hid

theorem mem_oldHostIds (hformed : self.WellFormed) (id : DeviceId) :
    id ∈ self.oldHostIds ↔ ∃ device, self.present[id]? = some device ∧ device.backend = .host := by
  unfold oldHostIds
  rw [List.mem_map]
  constructor
  · rintro ⟨device, hmem, rfl⟩
    obtain ⟨hmem, hbackend⟩ := List.mem_filter.mp hmem
    exact ⟨device, hformed.lookup_of_mem hmem, of_decide_eq_true hbackend⟩
  · rintro ⟨device, hlookup, hbackend⟩
    refine ⟨device, ?_, hformed.infoId id device hlookup⟩
    exact List.mem_filter.mpr ⟨(mem_snapshot_iff _ _).mpr ⟨id, hlookup⟩, decide_eq_true hbackend⟩

theorem mem_removed (self : DeviceInventory) (scanned : List LocalDevice) (id : DeviceId) :
    id ∈ (self.refreshHosts scanned).1.removed ↔
      id ∈ self.oldHostIds ∧ id ∉ (self.scanAll scanned).ids := by
  unfold refreshHosts scanAll Scan.ids
  rw [List.mem_filter, decide_eq_true_eq]

/-- The id of an emulated device is not found by a scan of hosts. -/
theorem Refreshable.emulated_unscanned (h : self.Refreshable scanned) {id : DeviceId}
    {device : LocalDevice} (hlookup : self.present[id]? = some device)
    (hbackend : device.backend = .emulated) : id ∉ (self.scanAll scanned).ids := by
  intro hids
  obtain ⟨scannedDevice, mem, rfl⟩ := (h.mem_ids id).mp hids
  have hbelow := h.fresh.below _ ((mem_iff_lookup _ _).mpr ⟨device, hlookup⟩)
  rcases (h.fresh.scanFresh scanned h.next).known _ _ (h.knownIds mem) with
    ⟨device', hlookup', hkey⟩ | ⟨hle, -⟩
  · rw [hlookup, Option.some.injEq] at hlookup'
    subst hlookup'
    have hsame : device.backend = scannedDevice.backend := congrArg DeviceKey.backend hkey
    rw [hbackend, h.scan.host scannedDevice mem] at hsame
    cases hsame
  · exact UInt32.lt_irrefl _ (UInt32.lt_of_lt_of_le hbelow hle)

/-- The devices after a refresh: the emulated ones of before, and the scanned ones. -/
theorem Refreshable.mem_snapshot (h : self.Refreshable scanned) (device : LocalDevice) :
    device ∈ (self.refreshHosts scanned).2.snapshot ↔
      (device ∈ self.snapshot ∧ device.backend = .emulated) ∨
        ∃ scannedDevice ∈ scanned, device =
          scannedDevice.withId ((self.scanAll scanned).inventory.idOf scannedDevice.key) := by
  rw [mem_snapshot_iff, mem_snapshot_iff]
  constructor
  · rintro ⟨id, hlookup⟩
    by_cases hids : id ∈ (self.scanAll scanned).ids
    · obtain ⟨scannedDevice, mem, rfl⟩ := (h.mem_ids id).mp hids
      rw [h.lookup_scanned mem, Option.some.injEq] at hlookup
      exact .inr ⟨scannedDevice, mem, hlookup.symm⟩
    · rw [lookup_unscanned hids] at hlookup
      split at hlookup
      · cases hlookup
      · rename_i hkept
        refine .inl ⟨⟨id, hlookup⟩, ?_⟩
        cases hbackend : device.backend with
        | emulated => rfl
        | host =>
            have hold := (mem_oldHostIds h.formed id).mpr ⟨device, hlookup, hbackend⟩
            exact absurd ((mem_removed self scanned id).mpr ⟨hold, hids⟩) hkept
  · rintro (⟨⟨id, hlookup⟩, hbackend⟩ | ⟨scannedDevice, mem, rfl⟩)
    · have hids := h.emulated_unscanned hlookup hbackend
      refine ⟨id, ?_⟩
      rw [lookup_unscanned hids, if_neg, hlookup]
      intro hremoved
      obtain ⟨device', hlookup', hbackend'⟩ :=
        (mem_oldHostIds h.formed id).mp ((mem_removed self scanned id).mp hremoved).1
      rw [hlookup, Option.some.injEq] at hlookup'
      rw [← hlookup', hbackend] at hbackend'
      cases hbackend'
    · exact ⟨_, h.lookup_scanned mem⟩

theorem Refreshable.listed_after (h : self.Refreshable scanned) :
    (self.refreshHosts scanned).2.Listed := h.listed.refreshHosts h.fresh h.next

/-- The id of a scanned key does not change in the other two loops. -/
theorem Refreshable.idOf_after (h : self.Refreshable scanned) {device : LocalDevice}
    (mem : device ∈ scanned) : (self.refreshHosts scanned).2.idOf device.key =
      (self.scanAll scanned).inventory.idOf device.key := by
  have hlisted := h.listed_after _ _ (h.lookup_scanned mem)
  exact idOf_of_known hlisted

/-! ## What a refresh does -/

/-- A refresh by `scanned`, as a whole. -/
structure Refreshed (before : DeviceInventory) (scanned : List LocalDevice)
    (after : DeviceInventory) (delta : InventoryDelta) : Prop where
  snapshot : after.snapshot.Perm
    ((before.snapshot.filter fun device => device.backend = .emulated) ++
      scanned.map fun device => device.withId (after.idOf device.key))
  added : ∀ id, id ∈ delta.added ↔ id ∈ after.present ∧ id ∉ before.present
  removed : ∀ id, id ∈ delta.removed ↔
    (∃ device, before.present[id]? = some device ∧ device.backend = .host) ∧ id ∉ after.present
  nodup : delta.added.Nodup ∧ delta.removed.Nodup
  disjoint : ∀ id ∈ delta.added, id ∉ delta.removed

theorem Refreshable.snapshot_perm (h : self.Refreshable scanned) :
    (self.refreshHosts scanned).2.snapshot.Perm
      ((self.snapshot.filter fun device => device.backend = .emulated) ++
        scanned.map fun device =>
          device.withId ((self.refreshHosts scanned).2.idOf device.key)) := by
  have hnodup : ∀ {inventory : DeviceInventory}, inventory.WellFormed → inventory.snapshot.Nodup :=
    fun hformed => (nodup_map_values _ _ hformed.infoId).of_map
  have hmap : (scanned.map fun device =>
      device.withId ((self.refreshHosts scanned).2.idOf device.key)) =
      scanned.map fun device =>
        device.withId ((self.scanAll scanned).inventory.idOf device.key) :=
    List.map_congr_left fun device mem => by rw [h.idOf_after mem]
  rw [hmap]
  refine (List.perm_ext_iff_of_nodup (hnodup (h.formed.refreshHosts scanned)) ?_).mpr ?_
  · refine List.nodup_append.mpr ⟨(hnodup h.formed).filter _, ?_, ?_⟩
    · have hkeys := h.scan.keys
      refine List.Nodup.of_map LocalDevice.key ?_
      rw [List.map_map]
      exact hkeys
    · intro device hmem device' hmem' heq
      obtain ⟨scannedDevice, mem, rfl⟩ := List.mem_map.mp hmem'
      have hemulated : device.backend = .emulated := of_decide_eq_true (List.mem_filter.mp hmem).2
      have hhost : device.backend = .host := by
        rw [heq]
        exact h.scan.host scannedDevice mem
      rw [hemulated] at hhost
      cases hhost
  · intro device
    rw [h.mem_snapshot, List.mem_append, List.mem_filter, List.mem_map, decide_eq_true_eq]
    simp only [@eq_comm _ device]

/-- The counter goes up with every id it gives out, as long as it is not saturated. -/
theorem iterate_lt {n : UInt32} {i j : Nat} (hij : i < j)
    (hnext : saturatingSucc^[j] n ≠ 0xffffffff) : saturatingSucc^[i] n < saturatingSucc^[j] n := by
  induction j with
  | zero => exact absurd hij (Nat.not_lt_zero i)
  | succ j ih =>
      rw [Function.iterate_succ_apply'] at hnext ⊢
      have hlast := lt_saturatingSucc hnext
      rcases Nat.lt_succ_iff_lt_or_eq.mp hij with hlt | rfl
      · refine UInt32.lt_trans (ih hlt ?_) hlast
        exact not_saturated_of_le (UInt32.le_of_lt hlast) hnext
      · exact hlast

theorem nodup_freshIds {self : DeviceInventory} {n : Nat}
    (hnext : saturatingSucc^[n] self.nextId ≠ 0xffffffff) : (self.freshIds n).Nodup := by
  have hlt : ∀ i j : Nat, i < j → j < n →
      saturatingSucc^[i] self.nextId < saturatingSucc^[j] self.nextId := by
    intro i j hij hj
    exact iterate_lt hij (not_saturated_of_le (UInt32.le_of_lt (iterate_lt hj hnext)) hnext)
  unfold freshIds
  refine List.Nodup.map_on ?_ List.nodup_range
  intro i hi j hj heq
  rw [List.mem_range] at hi hj
  rcases Nat.lt_trichotomy i j with hij | hij | hij
  · exact absurd heq (UInt32.ne_of_lt (hlt i j hij hj))
  · exact hij
  · exact absurd heq.symm (UInt32.ne_of_lt (hlt j i hij hi))

theorem Refreshable.nextId (h : self.Refreshable scanned) :
    (self.refreshHosts scanned).2.nextId =
      saturatingSucc^[(self.unknown scanned).length] self.nextId := by
  rw [refreshHosts_nextId]
  exact h.assigns.nextId

theorem Refreshable.added (h : self.Refreshable scanned) :
    (self.refreshHosts scanned).1.added = self.freshIds (self.unknown scanned).length :=
  h.assigns.newIds

theorem Refreshable.refreshed (h : self.Refreshable scanned) :
    Refreshed self scanned (self.refreshHosts scanned).2 (self.refreshHosts scanned).1 := by
  have hspec := refreshHosts_spec self scanned
  refine ⟨h.snapshot_perm, ?_, ?_, ⟨?_, ?_⟩, ?_⟩
  · exact fun id => ⟨fun hid => (hspec.added id hid).symm, fun hid => hspec.appeared id hid.1 hid.2⟩
  · intro id
    rw [mem_removed, mem_oldHostIds h.formed]
    refine and_congr_right ?_
    rintro ⟨device, hlookup, hbackend⟩
    refine not_congr ⟨?_, ?_⟩
    · intro hids
      obtain ⟨scannedDevice, mem, rfl⟩ := (h.mem_ids id).mp hids
      exact (mem_iff_lookup _ _).mpr ⟨_, h.lookup_scanned mem⟩
    · intro hpresent
      by_contra hids
      refine hspec.gone id ((mem_removed self scanned id).mpr ⟨?_, hids⟩) hpresent
      exact (mem_oldHostIds h.formed id).mpr ⟨device, hlookup, hbackend⟩
  · rw [h.added]
    apply nodup_freshIds
    rw [← h.nextId]
    exact h.next
  · refine List.Nodup.filter _ ?_
    unfold oldHostIds
    exact (nodup_map_values _ _ h.formed.infoId).sublist (List.filter_sublist.map _)
  · intro id hid hremoved
    exact (hspec.added id hid).1 (h.formed.present_of_removed hremoved)

end

section

variable {devices : List LocalDevice} {inventory : DeviceInventory}
  {history : History DeviceInventory (List LocalDevice)}

theorem tokened_run (run : Runs devices history inventory) : inventory.Tokened := by
  refine run.invariant Tokened (tokened_new devices) ?_
  intro pre scanned post h taken
  cases taken
  exact h.refreshHosts scanned

/-- In a run that has not saturated the counter, every refresh by a scan of hosts with
distinct keys can be described. -/
theorem refreshable_of_run (hkeys : (devices.map LocalDevice.key).Nodup)
    (run : Runs devices history inventory) {scanned : List LocalDevice} (hscan : HostScan scanned)
    (hnext : ¬ (inventory.refreshHosts scanned).2.Saturated) : inventory.Refreshable scanned := by
  obtain ⟨hformed, hfresh, hlisted⟩ := invariants_run hkeys run
    (not_saturated_of_le (nextId_le_refreshHosts inventory scanned) hnext)
  exact ⟨hformed, hfresh, hlisted, hscan, hnext⟩

/-- The inventory over refreshes.  Set up with devices of distinct keys and refreshed by
scans of hosts with distinct keys, up to a state in which the counter is not saturated, the
tables are in bijection, and every refresh did what `Refreshed` says. -/
theorem inventory_refreshes (hkeys : (devices.map LocalDevice.key).Nodup)
    (run : Runs devices history inventory) (hscans : ∀ t ∈ history, HostScan t.act)
    (hnext : ¬ inventory.Saturated) :
    inventory.Coherent ∧ ∀ t ∈ history, Refreshed t.pre t.act t.post (delta t) := by
  obtain ⟨hformed, hfresh, hlisted⟩ := invariants_run hkeys run hnext
  refine ⟨coherent hformed hfresh hlisted (tokened_run run), ?_⟩
  intro t ht
  have hscan := hscans t ht
  obtain ⟨later, earlier, rfl⟩ := List.append_of_mem ht
  obtain ⟨runBefore, taken, runAfter⟩ := run.cut
  have hpost := not_saturated_of_run runAfter hnext
  obtain ⟨pre, scanned, post⟩ := t
  obtain rfl : (pre.refreshHosts scanned).2 = post := Option.some.inj taken
  exact (refreshable_of_run hkeys runBefore hscan hpost).refreshed

end

/-! ## The order of a scan -/

section

variable {self : DeviceInventory} {scanned scanned' : List LocalDevice}

theorem HostScan.perm (h : HostScan scanned) (hperm : scanned.Perm scanned') :
    HostScan scanned' :=
  ⟨fun device mem => h.host device (hperm.mem_iff.mpr mem), (hperm.map _).nodup_iff.mp h.keys⟩

/-- The counter goes up by the number of unknown keys, whatever their order. -/
theorem length_unknown_perm (hperm : scanned.Perm scanned') :
    (self.unknown scanned).length = (self.unknown scanned').length := (hperm.filter _).length_eq

theorem Refreshable.perm (h : self.Refreshable scanned) (hperm : scanned.Perm scanned') :
    self.Refreshable scanned' ∧
      (self.refreshHosts scanned).2.nextId = (self.refreshHosts scanned').2.nextId := by
  have hscan := h.scan.perm hperm
  have hnextId : (self.refreshHosts scanned).2.nextId = (self.refreshHosts scanned').2.nextId := by
    rw [h.nextId, length_unknown_perm hperm, refreshHosts_nextId]
    exact (scanAssigns h.fresh hscan.keys).nextId.symm
  refine ⟨⟨h.formed, h.fresh, h.listed, hscan, ?_⟩, hnextId⟩
  unfold Saturated
  rw [← hnextId]
  exact h.next

theorem Refreshable.added_perm (h : self.Refreshable scanned) (hperm : scanned.Perm scanned') :
    (self.refreshHosts scanned).1.added = (self.refreshHosts scanned').1.added := by
  rw [h.added, (h.perm hperm).1.added, length_unknown_perm hperm]

/-- A present id is found by the scan when the key of its device is scanned. -/
theorem Refreshable.mem_ids_of_present (h : self.Refreshable scanned) {id : DeviceId}
    {device : LocalDevice} (hlookup : self.present[id]? = some device) :
    id ∈ (self.scanAll scanned).ids ↔ device.key ∈ scanned.map LocalDevice.key := by
  have hknown := foldl_scanDevice_knownIds scanned { inventory := self }
    (h.listed id device hlookup)
  rw [h.mem_ids, List.mem_map]
  constructor
  · rintro ⟨scannedDevice, mem, rfl⟩
    exact ⟨scannedDevice, mem, (h.fresh.scanFresh scanned h.next).unique _ _ _
      (h.knownIds mem) hknown⟩
  · rintro ⟨scannedDevice, mem, hkey⟩
    refine ⟨scannedDevice, mem, ?_⟩
    rw [hkey]
    exact idOf_of_known hknown

theorem Refreshable.removed_perm (h : self.Refreshable scanned) (hperm : scanned.Perm scanned') :
    (self.refreshHosts scanned).1.removed = (self.refreshHosts scanned').1.removed := by
  apply List.filter_congr
  intro id hold
  obtain ⟨device, hlookup, -⟩ := (mem_oldHostIds h.formed id).mp hold
  have hids := h.mem_ids_of_present hlookup
  rw [(hperm.map _).mem_iff, ← (h.perm hperm).1.mem_ids_of_present hlookup] at hids
  exact decide_eq_decide.mpr (not_congr hids)

/-- The keys after a refresh: those of the emulated devices, and the scanned ones. -/
theorem Refreshable.mem_keys (h : self.Refreshable scanned) (key : DeviceKey) :
    key ∈ (self.refreshHosts scanned).2.snapshot.map LocalDevice.key ↔
      (∃ device ∈ self.snapshot, device.backend = .emulated ∧ device.key = key) ∨
        key ∈ scanned.map LocalDevice.key := by
  rw [(h.snapshot_perm.map LocalDevice.key).mem_iff, List.map_append, List.mem_append, List.map_map]
  refine or_congr ?_ Iff.rfl
  simp only [List.mem_map, List.mem_filter, decide_eq_true_eq, and_assoc]

/-- Inventories with the same devices list them in the same order. -/
theorem snapshot_ext {inventory inventory' : DeviceInventory} (h : inventory.WellFormed)
    (h' : inventory'.WellFormed)
    (hmem : ∀ device, device ∈ inventory.snapshot ↔ device ∈ inventory'.snapshot) :
    inventory.snapshot = inventory'.snapshot := by
  have hpresent : inventory.present = inventory'.present := by
    apply Std.ExtTreeMap.ext_getElem?
    intro id
    apply Option.ext
    intro device
    rw [h.lookup_iff, h'.lookup_iff, hmem]
  rw [snapshot, hpresent, snapshot]

theorem Refreshable.snapshot_order (h : self.Refreshable scanned) (hperm : scanned.Perm scanned')
    (hpresent : ∀ device ∈ scanned, device.key ∈ self.snapshot.map LocalDevice.key) :
    (self.refreshHosts scanned).2.snapshot = (self.refreshHosts scanned').2.snapshot := by
  have h' := (h.perm hperm).1
  -- a key that was there has its id in both scans
  have hid : ∀ device ∈ scanned, (self.scanAll scanned).inventory.idOf device.key =
      (self.scanAll scanned').inventory.idOf device.key := by
    intro device mem
    obtain ⟨old, hold, hkey⟩ := List.mem_map.mp (hpresent device mem)
    obtain ⟨id, hlookup⟩ := (mem_snapshot_iff _ _).mp hold
    have hknown := h.listed id old hlookup
    rw [hkey] at hknown
    exact (idOf_of_known (foldl_scanDevice_knownIds scanned { inventory := self } hknown)).trans
      (idOf_of_known (foldl_scanDevice_knownIds scanned' { inventory := self } hknown)).symm
  refine snapshot_ext (h.formed.refreshHosts scanned) (h.formed.refreshHosts scanned') ?_
  intro device
  rw [h.mem_snapshot, h'.mem_snapshot]
  refine or_congr Iff.rfl ⟨?_, ?_⟩
  · rintro ⟨scannedDevice, mem, rfl⟩
    exact ⟨scannedDevice, hperm.mem_iff.mp mem, by rw [hid scannedDevice mem]⟩
  · rintro ⟨scannedDevice, mem, rfl⟩
    have mem' := hperm.mem_iff.mpr mem
    exact ⟨scannedDevice, mem', by rw [hid scannedDevice mem']⟩

end

/-- The order of a scan does not matter.  For an inventory reached by refreshes and two
orders of one scan of hosts with distinct keys, both refreshes remove the same ids and add
the same, end with the same keys present and the same counter, and leave every key that was
there before and is there after with the id it had.  When every scanned key was there
before, the devices are listed alike. -/
theorem scan_order_irrelevant {devices : List LocalDevice} {inventory : DeviceInventory}
    {history : History DeviceInventory (List LocalDevice)} {scanned scanned' : List LocalDevice}
    (hkeys : (devices.map LocalDevice.key).Nodup) (run : Runs devices history inventory)
    (hscan : HostScan scanned) (hperm : scanned.Perm scanned')
    (hnext : ¬ (inventory.refreshHosts scanned).2.Saturated) :
    let first := inventory.refreshHosts scanned
    let second := inventory.refreshHosts scanned'
    first.1.removed = second.1.removed ∧ first.1.added = second.1.added ∧
      (∀ key, key ∈ first.2.snapshot.map LocalDevice.key ↔
        key ∈ second.2.snapshot.map LocalDevice.key) ∧
      first.2.nextId = second.2.nextId ∧
      (∀ device ∈ inventory.snapshot,
        (∀ device' ∈ first.2.snapshot, device'.key = device.key →
          device'.info.id = device.info.id) ∧
        ∀ device' ∈ second.2.snapshot, device'.key = device.key →
          device'.info.id = device.info.id) ∧
      ((∀ device ∈ scanned, device.key ∈ inventory.snapshot.map LocalDevice.key) →
        first.2.snapshot = second.2.snapshot) := by
  have h := refreshable_of_run hkeys run hscan hnext
  obtain ⟨h', hnextId⟩ := h.perm hperm
  have hid : ∀ {scan : List LocalDevice}, inventory.Refreshable scan →
      ∀ device ∈ inventory.snapshot, ∀ device' ∈ (inventory.refreshHosts scan).2.snapshot,
        device'.key = device.key → device'.info.id = device.info.id := by
    intro scan hrefresh device hmem device' hmem' hkey
    have hlookup := hrefresh.formed.lookup_of_mem hmem
    have hlookup' := (hrefresh.formed.refreshHosts scan).lookup_of_mem hmem'
    exact (hrefresh.listed.stable hrefresh.listed_after hlookup hlookup' hkey.symm).symm
  refine ⟨h.removed_perm hperm, h.added_perm hperm, ?_, hnextId,
    fun device hmem => ⟨hid h device hmem, hid h' device hmem⟩, h.snapshot_order hperm⟩
  intro key
  rw [h.mem_keys, h'.mem_keys, (hperm.map _).mem_iff]

end DeviceInventory

namespace Sample

theorem refreshed_run : DeviceInventory.Runs [stick] refreshed.1 refreshed.2 := Run.nil.replay _

theorem refreshed_scans : ∀ t ∈ refreshed.1, DeviceInventory.HostScan t.act := by
  have hscans : ∀ t ∈ refreshed.1, (∀ device ∈ t.act, device.backend = .host) ∧
      (t.act.map LocalDevice.key).Nodup := by decide +kernel
  exact fun t ht => ⟨(hscans t ht).1, (hscans t ht).2⟩

theorem refreshed_next : refreshed.2.nextId ≠ 0xffffffff := by decide +kernel

end Sample

theorem sample_inventory_refreshes :
    Sample.refreshed.2.Coherent ∧ ∀ t ∈ Sample.refreshed.1,
      DeviceInventory.Refreshed t.pre t.act t.post (DeviceInventory.delta t) :=
  DeviceInventory.inventory_refreshes (by decide) Sample.refreshed_run Sample.refreshed_scans
    Sample.refreshed_next

theorem sample_scan_order_irrelevant :
    (Sample.refreshed.2.refreshHosts [Sample.disk, Sample.stick]).2.snapshot =
      (Sample.refreshed.2.refreshHosts [Sample.stick, Sample.disk]).2.snapshot := by
  obtain ⟨-, -, -, -, -, hsnapshot⟩ := DeviceInventory.scan_order_irrelevant (by decide)
    Sample.refreshed_run ⟨by decide, by decide⟩ (.swap Sample.stick Sample.disk [])
    (by unfold DeviceInventory.Saturated; decide +kernel)
  exact hsnapshot (by decide +kernel)

end FarBus.Core
