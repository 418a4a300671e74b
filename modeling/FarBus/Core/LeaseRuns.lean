/-
  Core/LeaseRuns.lean --- the lease book over whole runs of the server.

  Leases are changed in four places (`World.LeaseChange`) by sessions that interleave
  freely with each other and with hotplug.  Two things are followed here: leases
  stay on present devices, and a peer's lease is out of reach of sessions that never
  authenticate as that peer.
-/
import FarBus.Core.Authorization

set_option autoImplicit false

namespace FarBus.Core

open FarBus.Foundation
open FarBus.Protocol

section

variable {platform : Platform} {start w w' : World} {history later earlier : ServerHistory}
  {t : Transition World Action} {act : Action}

/-! ## The inventory over a run -/

theorem World.Starting.devices (h : World.Starting platform start) :
    ∃ devices, start.server.devices = DeviceInventory.new devices := by
  cases h <;> exact ⟨_, rfl⟩

theorem nextId_le_step (taken : w.step platform act = some w') :
    w.server.devices.nextId ≤ w'.server.devices.nextId := by
  rcases World.step_devices taken with hsame | ⟨scanned, -, hrefreshed⟩
  · rw [hsame]
    exact UInt32.le_refl _
  · rw [hrefreshed]
    exact DeviceInventory.nextId_le_refreshHosts _ _

/-- The id counter only grows. -/
theorem nextId_le_run (run : World.Runs platform start history w) :
    start.server.devices.nextId ≤ w.server.devices.nextId := by
  induction run with
  | nil => exact UInt32.le_refl _
  | snoc _ taken ih => exact UInt32.le_trans ih (nextId_le_step taken)

/-- What a new inventory has and a refresh keeps, the inventory of a server has. -/
theorem devices_invariant (Inv : DeviceInventory → Prop) (hnew : ∀ devices, Inv (.new devices))
    (hrefresh : ∀ inventory scanned, Inv inventory → Inv (inventory.refreshHosts scanned).2)
    (hstart : World.Starting platform start) (run : World.Runs platform start history w) :
    Inv w.server.devices := by
  refine run.invariant (fun w => Inv w.server.devices) ?_ ?_
  · obtain ⟨devices, hdevices⟩ := hstart.devices
    rw [hdevices]
    exact hnew devices
  · intro pre act post hpre taken
    rcases World.step_devices taken with hsame | ⟨scanned, -, hrefreshed⟩
    · rw [hsame]
      exact hpre
    · rw [hrefreshed]
      exact hrefresh _ scanned hpre

theorem inventory_wellFormed (hstart : World.Starting platform start)
    (run : World.Runs platform start history w) : w.server.devices.WellFormed :=
  devices_invariant _ DeviceInventory.wellFormed_new (fun _ scanned h => h.refreshHosts scanned)
    hstart run

/-- While the counter is not saturated, ids are not handed out twice. -/
theorem inventory_idsFresh (hstart : World.Starting platform start)
    (run : World.Runs platform start history w) (hnext : ¬ w.server.devices.Saturated) :
    w.server.devices.IdsFresh := by
  induction run with
  | nil =>
      obtain ⟨devices, hdevices⟩ := hstart.devices
      rw [hdevices] at hnext ⊢
      exact DeviceInventory.idsFresh_new devices hnext
  | snoc run taken ih =>
      have hpre := ih (DeviceInventory.not_saturated_of_le (nextId_le_step taken) hnext)
      rcases World.step_devices taken with hsame | ⟨scanned, -, hrefreshed⟩
      · rw [hsame]
        exact hpre
      · rw [hrefreshed] at hnext ⊢
        exact hpre.refreshHosts scanned hnext

/-- An id that a refresh adds was not present in any state before it. -/
theorem added_not_present (hstart : World.Starting platform start)
    (run : World.Runs platform start (later ++ t :: earlier) w) {scanned : List LocalDevice}
    (hact : t.act = .refreshHostDevices scanned) (hnext : ¬ t.post.server.devices.Saturated)
    {device : DeviceId} (hadded : device ∈ (t.pre.server.devices.refreshHosts scanned).1.added)
    {u : Transition World Action} (hu : u ∈ earlier) : device ∉ u.pre.server.devices.present := by
  obtain ⟨runBefore, taken, -⟩ := run.cut
  have hpost : t.post.server.devices = (t.pre.server.devices.refreshHosts scanned).2 := by
    rw [hact] at taken
    rw [← Option.some.inj taken]
    rfl
  have hpre : ¬ t.pre.server.devices.Saturated :=
    DeviceInventory.not_saturated_of_le (nextId_le_step taken) hnext
  have hle : t.pre.server.devices.nextId ≤ device := by
    rw [hpost] at hnext
    exact (inventory_idsFresh hstart runBefore hpre).nextId_le_added scanned hnext hadded
  obtain ⟨between, before, rfl⟩ := List.append_of_mem hu
  obtain ⟨runU, takenU, runBetween⟩ := runBefore.cut
  have hleU : u.pre.server.devices.nextId ≤ t.pre.server.devices.nextId :=
    UInt32.le_trans (nextId_le_step takenU) (nextId_le_run runBetween)
  have hfreshU := inventory_idsFresh hstart runU (DeviceInventory.not_saturated_of_le hleU hpre)
  intro hmem
  exact UInt32.lt_irrefl _
    (UInt32.lt_of_lt_of_le (hfreshU.below device hmem) (UInt32.le_trans hleU hle))

/-! ## Leases are on present devices -/

/-- The attach section looks the device up and the refresh drops the leases of what it
removes, each under the inventory lock. -/
theorem leased_present_step (taken : w.step platform act = some w')
    (h : ∀ device peer, w.server.leases.owner device = some peer →
      device ∈ w.server.devices.present) :
    ∀ device peer, w'.server.leases.owner device = some peer →
      device ∈ w'.server.devices.present := by
  intro device peer hleased
  have hpresent : device ∈ w.server.devices.present := by
    by_cases hbefore : w.server.leases.owner device = some peer
    · exact h device peer hbefore
    · obtain ⟨hchange, -⟩ := World.step_acquired taken hbefore hleased
      cases hchange with
      | attached draw mem pc get exported => exact (mem_iff_lookup _ _).mpr ⟨_, get⟩
  rcases World.step_devices taken with hsame | ⟨scanned, rfl, hrefreshed⟩
  · rw [hsame]
    exact hpresent
  · rw [hrefreshed]
    apply (DeviceInventory.refreshHosts_spec _ scanned).kept device hpresent
    intro hremoved
    -- a removed device keeps no lease
    rw [World.step_leases taken] at hleased
    simp only [World.leaseOp, if_pos (List.ne_nil_of_mem hremoved), LeaseBook.update, LeaseOp.apply,
      LeaseBook.owner_releaseDevices, if_pos hremoved] at hleased
    cases hleased

theorem leased_present (hstart : World.Starting platform start)
    (run : World.Runs platform start history w) {device : DeviceId} {peer : PeerFingerprint}
    (hleased : w.server.leases.owner device = some peer) : device ∈ w.server.devices.present := by
  have hall : ∀ device peer, w.server.leases.owner device = some peer →
      device ∈ w.server.devices.present := by
    refine run.invariant (fun w => ∀ device peer, w.server.leases.owner device = some peer →
      device ∈ w.server.devices.present) ?_ ?_
    · intro device peer hleased
      rw [hstart.leases] at hleased
      cases hleased
    · intro pre act post hpre taken
      exact leased_present_step taken hpre
  exact hall device peer hleased

/-- Leases exist on present devices only.  A device that a refresh adds is leased to
nobody then, whatever its id; while the id counter is not saturated the id is one
that no earlier state had present; and whoever holds a lease on it later got it by
an attach request processed after the refresh. -/
theorem leases_on_present_devices (hstart : World.Starting platform start)
    (run : World.Runs platform start history w) :
    (∀ device peer, w.server.leases.owner device = some peer →
      device ∈ w.server.devices.present) ∧
    ∀ later t earlier scanned, history = later ++ t :: earlier →
      t.act = .refreshHostDevices scanned →
      ∀ device ∈ (t.pre.server.devices.refreshHosts scanned).1.added,
        t.post.server.leases.owner device = none ∧
        (¬ t.post.server.devices.Saturated →
          ∀ u ∈ earlier, device ∉ u.pre.server.devices.present) ∧
        ∀ peer, w.server.leases.owner device = some peer →
          ∃ since u before s req, later = since ++ u :: before ∧ AttachProcessed s device peer u ∧
            req.deviceId = device ∧ Authorized s (before ++ t :: earlier) (.attach req) peer := by
  refine ⟨fun device peer hleased => leased_present hstart run hleased, ?_⟩
  intro later t earlier scanned hcut hact device hadded
  subst hcut
  obtain ⟨runBefore, taken, runAfter⟩ := run.cut
  have habsent := ((DeviceInventory.refreshHosts_spec _ scanned).added device hadded).1
  -- what was not present was not leased, and a refresh leases nothing
  have hnone : ∀ peer, t.post.server.leases.owner device ≠ some peer := by
    intro peer hleased
    by_cases hbefore : t.pre.server.leases.owner device = some peer
    · exact habsent (leased_present hstart runBefore hbefore)
    · obtain ⟨hchange, -⟩ := World.step_acquired taken hbefore hleased
      rw [hact] at hchange
      cases hchange
  refine ⟨Option.eq_none_iff_forall_ne_some.mpr hnone,
    fun hnext u hu => added_not_present hstart run hact hnext hadded hu, ?_⟩
  intro peer hleased
  obtain ⟨since, u, before, rfl, hbefore, hafter, -⟩ :=
    runAfter.established (fun w => w.server.leases.owner device = some peer) (hnone peer) hleased
  have run' : World.Runs platform start (since ++ u :: (before ++ t :: earlier)) w := by
    simpa using run
  obtain ⟨s, hattach⟩ := attachProcessed_of_acquired run'.cut.2.1 hbefore hafter
  obtain ⟨req, hdevice, hauth⟩ := hattach.1.justified (provenance_before hstart run')
  exact ⟨since, u, before, s, req, rfl, hattach, hdevice, hauth⟩

end

namespace Sample

def hostDevice : LocalDevice :=
  { info :=
      { id := 1, busId := "3-2", vid := 0x0781, pid := 0x5567, usbClass := 0, speed := .high
        product := "stick", exported := true, interfaces := [] }
    backend := .host }

/-- The keyboard is leased; a stick is plugged in and out. -/
def unplugged : List Action :=
  pair 0 peer 9 ++ attach 0 9 ++ [.refreshHostDevices [hostDevice], .refreshHostDevices []]

end Sample

theorem sample_leases_on_present_devices :
    ∃ w, World.Runs Sample.platform Sample.start
        (Sample.last Sample.unplugged (.refreshHostDevices [Sample.hostDevice]) ::
          (Sample.after Sample.unplugged).1) w ∧
      w.server.leases.owner 1 = some Sample.peer ∧ 1 ∈ w.server.devices.present ∧
      w.server.leases.owner 3 = none ∧
      ∀ u ∈ (Sample.after Sample.unplugged).1, 3 ∉ u.pre.server.devices.present := by
  have run := Sample.runs_last Sample.unplugged (.refreshHostDevices [Sample.hostDevice])
    (by decide +kernel)
  obtain ⟨hpresent, hadded⟩ := leases_on_present_devices Sample.starting run
  have hleased : (Sample.last Sample.unplugged
      (.refreshHostDevices [Sample.hostDevice])).post.server.leases.owner 1 = some Sample.peer := by
    decide +kernel
  obtain ⟨hnone, hfresh, -⟩ := hadded [] _ _ _ rfl rfl 3 (by decide +kernel)
  have hnext : ¬ (Sample.last Sample.unplugged
      (.refreshHostDevices [Sample.hostDevice])).post.server.devices.Saturated := by
    unfold DeviceInventory.Saturated
    decide +kernel
  exact ⟨_, run, hleased, hpresent 1 _ hleased, hnone, hfresh hnext⟩

/-! ## One peer's lease is out of another's reach -/

/-- The session that takes a step. -/
def Action.actor : Action → Option Nat
  | .recv s _ | .eof s | .advance s _ | .write s | .fail s | .joined s | .release s => some s
  | .tick _ | .refreshHostDevices _ | .renewExpiredPin _ | .accept | .task _ _ => none

/-- The session that takes the step is not authenticated as `peer`, before or after. -/
def NotAs (peer : PeerFingerprint) (t : Transition World Action) : Prop :=
  ∀ s session, t.act.actor = some s →
    (t.pre.sessions[s]? = some session ∨ t.post.sessions[s]? = some session) →
    session.principal ≠ some peer

instance (peer : PeerFingerprint) (t : Transition World Action) : Decidable (NotAs peer t) :=
  decidable_of_iff
    (∀ s ∈ t.act.actor, (∀ session ∈ t.pre.sessions[s]?, session.principal ≠ some peer) ∧
      ∀ session ∈ t.post.sessions[s]?, session.principal ≠ some peer) <| by
    constructor
    · intro h s session hactor hmem
      rcases hmem with hmem | hmem
      · exact (h s hactor).1 session hmem
      · exact (h s hactor).2 session hmem
    · intro h s hactor
      exact ⟨fun session hmem => h s session hactor (.inl hmem),
        fun session hmem => h s session hactor (.inr hmem)⟩

instance (act : Action) (P : List LocalDevice → Prop) [DecidablePred P] :
    Decidable (∃ scanned, act = .refreshHostDevices scanned ∧ P scanned) :=
  decidable_of_iff
    ((match act with
      | .refreshHostDevices scanned => decide (P scanned)
      | _ => false) = true) <| by
    split
    · simp
    · rename_i hact
      simp only [Bool.false_eq_true, false_iff, not_exists]
      intro scanned h
      exact hact scanned h.1

/-- The step is a refresh that removes the device. -/
def Unplugs (device : DeviceId) (t : Transition World Action) : Prop :=
  ∃ scanned, t.act = .refreshHostDevices scanned ∧
    device ∈ (t.pre.server.devices.refreshHosts scanned).1.removed

instance (device : DeviceId) (t : Transition World Action) : Decidable (Unplugs device t) :=
  inferInstanceAs (Decidable (∃ scanned, t.act = .refreshHostDevices scanned ∧
    device ∈ (t.pre.server.devices.refreshHosts scanned).1.removed))

/-- The step ends the lease of `peer` on the device without touching the device: a
detach, or the end of a session. -/
def EndsLease (device : DeviceId) (peer : PeerFingerprint) (t : Transition World Action) : Prop :=
  (∃ s, DetachProcessed s device peer t) ∨
    ∃ s session, t.act = .release s ∧ t.pre.sessions[s]? = some session ∧
      session.principal = some peer

section

variable {platform : Platform} {start w w' : World} {history later earlier : ServerHistory}
  {t : Transition World Action} {device : DeviceId} {peer : PeerFingerprint}

theorem Unplugs.absent (h : Unplugs device t) (taken : t.pre.step platform t.act = some t.post) :
    device ∉ t.post.server.devices.present := by
  obtain ⟨scanned, hact, hremoved⟩ := h
  rw [hact] at taken
  rw [← Option.some.inj taken]
  exact (DeviceInventory.refreshHosts_spec _ scanned).gone device hremoved

theorem revokes_iff_unplugs_or_endsLease :
    t.pre.Revokes device peer t.act ↔ Unplugs device t ∨ EndsLease device peer t := by
  constructor
  · intro h
    generalize hact : t.act = act at h
    cases h with
    | removed scanned mem => exact .inl ⟨scanned, hact, mem⟩
    | detached draw mem pc => exact .inr (.inl ⟨_, draw, _, hact, mem, pc⟩)
    | ended mem principal => exact .inr (.inr ⟨_, _, hact, mem, principal⟩)
  · intro h
    rcases h with ⟨scanned, hact, mem⟩ | ⟨s, draw, session, hact, mem, pc⟩ |
      ⟨s, session, hact, mem, principal⟩
    · rw [hact]
      exact .removed scanned mem
    · rw [hact]
      exact .detached draw mem pc
    · rw [hact]
      exact .ended mem principal

theorem lease_step (taken : t.pre.step platform t.act = some t.post)
    (hplugged : ¬ Unplugs device t) (hends : ¬ EndsLease device peer t)
    (hbefore : t.pre.server.leases.owner device = some peer) :
    t.post.server.leases.owner device = some peer := by
  by_contra hafter
  rcases revokes_iff_unplugs_or_endsLease.mp ((World.step_lost_iff taken hbefore).mp hafter) with
    hunplugs | hended
  · exact hplugged hunplugs
  · exact hends hended

/-- A session that is not authenticated as the owner ends no lease of it. -/
theorem NotAs.not_endsLease (hnot : NotAs peer t) (hprov : Provenance platform earlier t.pre)
    (device : DeviceId) : ¬ EndsLease device peer t := by
  intro hends
  rcases hends with ⟨s, draw, session, hact, mem, pc⟩ | ⟨s, session, hact, mem, principal⟩
  · apply hnot s session (by rw [hact]; rfl) (.inl mem)
    apply (hprov.session s session mem).actsFor
    rw [pc]
    rfl
  · exact hnot s session (by rw [hact]; rfl) (.inl mem) principal

/-- While another peer holds the device, an attach section grants nothing. -/
theorem attach_refused {book : LeaseBook} {owner : PeerFingerprint}
    (hheld : book.owner device = some peer) (hne : owner ≠ peer) :
    (book.acquire device owner).1.isOk = false := by
  cases hacquire : (book.acquire device owner).1 with
  | error err => rfl
  | ok =>
      have howner := (LeaseBook.acquire_ok_iff book device owner).mp hacquire
      rw [LeaseBook.owner_acquire, if_pos rfl, hheld, Option.some_or, Option.some.injEq] at howner
      exact absurd howner.symm hne

/-- The reply that a session is about to send grants the device. -/
def GrantsPending (device : DeviceId) (pc : Pc) : Prop :=
  ∃ response, pc = .replying (.attachResponse response) ∧ response.deviceId = device ∧
    response.success = true

/-- In `t`, session `s` read a message or went through the lease book for the device. -/
def Served (s : Nat) (device : DeviceId) (t : Transition World Action) : Prop :=
  (∃ msg, t.act = .recv s msg) ∨ ∃ owner, Enters s (.attaching device owner) t

theorem dispatch_not_grantsPending (platform : Platform) (server : ServerState)
    (session : Session) (msg : Message) :
    ¬ GrantsPending device (session.dispatch platform server msg).pc := by
  intro h
  obtain ⟨response, hpc, -⟩ := h
  unfold Session.dispatch at hpc
  split at hpc <;> (try split at hpc) <;> cases hpc

/-- Nobody but `peer` can be given the device: `peer` holds it, or it is not there. -/
def Shielded (device : DeviceId) (peer : PeerFingerprint) (w : World) : Prop :=
  w.server.leases.owner device = some peer ∨ device ∉ w.server.devices.present

/-- A grant that is pending stays one only if nothing was served since; and no new one
comes about. -/
theorem grantsPending_step (hprov : Provenance platform earlier t.pre)
    (taken : t.pre.step platform t.act = some t.post) (hnot : NotAs peer t)
    (hshield : Shielded device peer t.pre) {s : Nat} {session' : Session}
    (mem' : t.post.sessions[s]? = some session') (hpending : GrantsPending device session'.pc) :
    ¬ Served s device t ∧
      ∃ session, t.pre.sessions[s]? = some session ∧ GrantsPending device session.pc := by
  rcases World.step_session taken mem' with ⟨-, -, rfl⟩ | ⟨session, mem, hmove⟩
  · obtain ⟨response, hpc, -⟩ := hpending
    cases hpc
  · cases hmove with
    | kept quiet peer principal pc =>
        rw [pc] at hpending
        refine ⟨?_, session, mem, hpending⟩
        intro hserved
        rcases hserved with ⟨msg, hact⟩ | ⟨owner, draw, session₁, -, mem₁, hpc₁⟩
        · exact quiet msg hact
        · rw [mem, Option.some.injEq] at mem₁
          obtain ⟨response, hpc, -⟩ := hpending
          rw [mem₁, hpc₁] at hpc
          cases hpc
    | recv msg hact pc result =>
        rw [result] at hpending
        exact absurd hpending (dispatch_not_grantsPending platform _ session msg)
    | advance draw outcome hact entered result =>
        obtain ⟨response, hpc, hdevice, hsuccess⟩ := hpending
        rw [result] at hpc
        cases entered with
        | @attached device' owner found pc exported =>
            -- the section is entered for a principal that does not hold the device
            cases hpc
            have hprincipal : session.principal = some owner := by
              apply (hprov.session s session mem).actsFor
              rw [pc]
              rfl
            have hne : owner ≠ peer := by
              intro heq
              apply hnot s session (by rw [hact]; rfl) (.inl mem)
              rw [hprincipal, heq]
            obtain ⟨hget, -⟩ := Option.filter_eq_some_iff.mp exported
            dsimp only at hdevice
            subst hdevice
            rcases hshield with hheld | habsent
            · rw [attach_refused hheld hne] at hsuccess
              cases hsuccess
            · exact absurd ((mem_iff_lookup _ _).mpr ⟨found, hget⟩) habsent
        | _ => cases hpc
    | left quiet live peer principal pc =>
        obtain ⟨response, hpc, -⟩ := hpending
        rcases pc with h | h | h <;> rw [h] at hpc <;> cases hpc

theorem held_of_not_revoked (run : World.Runs platform w history w')
    (hheld : w.server.leases.owner device = some peer)
    (hnever : ∀ v ∈ history, ¬ v.pre.Revokes device peer v.act) :
    w'.server.leases.owner device = some peer ∧
      ∀ v ∈ history, v.post.server.leases.owner device = some peer := by
  obtain ⟨hnow, hsince⟩ := run.maintained
    (fun w => w.server.leases.owner device = some peer) hheld fun v hv taken hbefore => by
      by_contra hafter
      exact hnever v hv ((World.step_lost_iff taken hbefore).mp hafter)
  exact ⟨hnow, fun v hv => (hsince v hv).2⟩

/-- A run of other peers' sessions leaves the lease, as long as the device stays. -/
theorem lease_kept_run (hstart : World.Starting platform start)
    (run : World.Runs platform start earlier w) (foreign : World.Runs platform w history w')
    (hnot : ∀ t ∈ history, NotAs peer t) (hplugged : ∀ t ∈ history, ¬ Unplugs device t)
    (hheld : w.server.leases.owner device = some peer) :
    w'.server.leases.owner device = some peer := by
  refine (held_of_not_revoked foreign hheld ?_).1
  intro t ht hrevokes
  rcases revokes_iff_unplugs_or_endsLease.mp hrevokes with hunplugs | hends
  · exact hplugged t ht hunplugs
  · obtain ⟨since, before, rfl⟩ := List.append_of_mem ht
    have hprov := provenance hstart (run.trans foreign.cut.1)
    exact (hnot t ht).not_endsLease hprov device hends

/-- Even when the device goes, its id is not handed out again while the counter is not
saturated. -/
theorem shielded_run (hstart : World.Starting platform start)
    (run : World.Runs platform start earlier w) (foreign : World.Runs platform w history w')
    (hnot : ∀ t ∈ history, NotAs peer t) (hheld : w.server.leases.owner device = some peer)
    (hnext : ¬ w'.server.devices.Saturated) :
    w'.server.leases.owner device = some peer ∨
      device ∉ w'.server.devices.present ∧ device < w'.server.devices.nextId := by
  induction foreign with
  | nil => exact .inl hheld
  | @snoc history pre post act foreign taken ih =>
      have hle := nextId_le_step taken
      have hnextPre : ¬ pre.server.devices.Saturated :=
        DeviceInventory.not_saturated_of_le hle hnext
      have runPre := run.trans foreign
      have hfresh := inventory_idsFresh hstart runPre hnextPre
      rcases ih (fun t ht => hnot t (List.mem_cons_of_mem _ ht)) hnextPre with hpre | ⟨habsent, hlt⟩
      · by_cases hunplugs : Unplugs device ⟨pre, act, post⟩
        · have hlt := hfresh.below device (leased_present hstart runPre hpre)
          exact .inr ⟨hunplugs.absent taken, UInt32.lt_of_lt_of_le hlt hle⟩
        · have hends := (hnot _ List.mem_cons_self).not_endsLease (provenance hstart runPre) device
          exact .inl (lease_step (t := ⟨pre, act, post⟩) taken hunplugs hends hpre)
      · refine .inr ⟨?_, UInt32.lt_of_lt_of_le hlt hle⟩
        rcases World.step_devices taken with hsame | ⟨scanned, rfl, hrefreshed⟩
        · rw [hsame]
          exact habsent
        · intro hmem
          rw [hrefreshed] at hmem hnext
          have hadded := (DeviceInventory.refreshHosts_spec _ scanned).appeared device hmem habsent
          have hge := hfresh.nextId_le_added scanned hnext hadded
          exact UInt32.lt_irrefl _ (UInt32.lt_of_lt_of_le hlt hge)

/-- A grant pending after a run of other peers' sessions was pending before it, and the
session served nothing in between. -/
theorem grantsPending_run (hstart : World.Starting platform start)
    (run : World.Runs platform start earlier w) (foreign : World.Runs platform w history w')
    (hnot : ∀ t ∈ history, NotAs peer t)
    (hshield : ∀ t ∈ history, Shielded device peer t.pre) {s : Nat} {session' : Session}
    (mem' : w'.sessions[s]? = some session') (hpending : GrantsPending device session'.pc) :
    ∀ t ∈ history, ¬ Served s device t := by
  induction foreign generalizing session' with
  | nil => simp
  | @snoc history pre post act foreign taken ih =>
      obtain ⟨hserved, session, mem, hpending⟩ := grantsPending_step (t := ⟨pre, act, post⟩)
        (provenance hstart (run.trans foreign)) taken (hnot _ List.mem_cons_self)
        (hshield _ List.mem_cons_self) mem' hpending
      intro t ht
      rcases List.mem_cons.mp ht with rfl | ht
      · exact hserved
      · exact ih (fun t ht => hnot t (List.mem_cons_of_mem _ ht))
          (fun t ht => hshield t (List.mem_cons_of_mem _ ht)) mem hpending t ht

/-- A detach leaves its peer without the device, and every other peer's leases alone. -/
theorem detach_effect {s : Nat} (h : DetachProcessed s device peer t)
    (taken : t.pre.step platform t.act = some t.post) :
    t.post.server.leases.owner device ≠ some peer ∧
      ∀ other device', other ≠ peer → (t.post.server.leases.owner device' = some other ↔
        t.pre.server.leases.owner device' = some other) := by
  obtain ⟨draw, session, hact, mem, pc⟩ := h
  have hleases : t.post.server.leases = (t.pre.server.leases.release device peer).2 := by
    rw [World.step_leases taken, hact]
    simp only [World.leaseOp, mem, Option.bind_eq_bind, Option.bind_some, Session.leaseOp, pc]
    rfl
  rw [hleases]
  refine ⟨?_, ?_⟩
  · rw [LeaseBook.owner_release]
    split
    · intro h
      cases h
    · rename_i hnot
      intro howner
      exact hnot ⟨rfl, howner⟩
  · intro other device' hother
    rw [LeaseBook.owner_release]
    split
    · rename_i hreleased
      rw [hreleased.1, hreleased.2]
      simp only [reduceCtorEq, Option.some.injEq, false_iff]
      exact fun heq => hother heq.symm
    · rfl

/-- Cross-peer isolation.  Take a state in which `peer` holds the device, and a run of
sessions none of which is authenticated as `peer` when it takes a step.  The lease
stays unless a refresh removes the device.  A granted attach for the device that is
answered in the run was read and decided before it, also after a removal as long as
the id counter is not saturated.  An operation of the lease book that fails changes
nothing, and an answered detach leaves its peer without the device and no other peer
without anything. -/
theorem cross_peer_isolation (hstart : World.Starting platform start)
    (run : World.Runs platform start earlier w)
    (hheld : w.server.leases.owner device = some peer)
    (foreign : World.Runs platform w history w') (hnot : ∀ t ∈ history, NotAs peer t) :
    ((∀ t ∈ history, ¬ Unplugs device t) → w'.server.leases.owner device = some peer) ∧
    (∀ later t before s response, history = later ++ t :: before →
      Sends s (.attachResponse response) t → response.deviceId = device → response.success = true →
      ((∀ u ∈ before, ¬ Unplugs device u) ∨ ¬ t.pre.server.devices.Saturated) →
      ∀ u ∈ before, ¬ Served s device u) ∧
    (∀ (book : LeaseBook) id owner err,
      ((book.acquire id owner).1 = .error err → (book.acquire id owner).2 = book) ∧
      ((book.release id owner).1 = .error err → (book.release id owner).2 = book)) ∧
    (∀ later t before s id, history ++ earlier = later ++ t :: before → Sends s (.detach id) t →
      ∃ req owner, req.deviceId = id ∧ Authorized s before (.detach req) owner ∧
        ∃ u ∈ sinceRequest s before, DetachProcessed s id owner u ∧
          u.post.server.leases.owner id ≠ some owner ∧
          ∀ other id', other ≠ owner → (u.post.server.leases.owner id' = some other ↔
            u.pre.server.leases.owner id' = some other)) := by
  refine ⟨fun hplugged => lease_kept_run hstart run foreign hnot hplugged hheld, ?_,
    fun book id owner err => ⟨LeaseBook.acquire_error, LeaseBook.release_error⟩, ?_⟩
  · intro later t before s response hcut hsends hdevice hsuccess hcase
    subst hcut
    obtain ⟨foreignBefore, taken, -⟩ := foreign.cut
    have hnotBefore : ∀ u ∈ before, NotAs peer u := fun u hu =>
      hnot u (List.mem_append_right _ (List.mem_cons_of_mem _ hu))
    have hshield : ∀ u ∈ before, Shielded device peer u.pre := by
      intro u hu
      obtain ⟨since, first, rfl⟩ := List.append_of_mem hu
      obtain ⟨foreignFirst, takenU, foreignSince⟩ := foreignBefore.cut
      have hnotFirst : ∀ v ∈ first, NotAs peer v := fun v hv =>
        hnotBefore v (List.mem_append_right _ (List.mem_cons_of_mem _ hv))
      rcases hcase with hplugged | hnext
      · exact .inl (lease_kept_run hstart run foreignFirst hnotFirst
          (fun v hv => hplugged v (List.mem_append_right _ (List.mem_cons_of_mem _ hv))) hheld)
      · have hle := UInt32.le_trans (nextId_le_step takenU) (nextId_le_run foreignSince)
        have hnextU := DeviceInventory.not_saturated_of_le hle hnext
        rcases shielded_run hstart run foreignFirst hnotFirst hheld hnextU with h | ⟨h, -⟩
        · exact .inl h
        · exact .inr h
    obtain ⟨draw, session, -, mem, pc⟩ := hsends.enters taken fun _ => nofun
    exact grantsPending_run hstart run foreignBefore hnotBefore hshield mem
      ⟨response, pc, hdevice, hsuccess⟩
  · intro later t before s id hcut hsends
    have runAll := run.trans foreign
    rw [hcut] at runAll
    obtain ⟨runBefore, taken, -⟩ := runAll.cut
    obtain ⟨req, owner, hdevice, hauth, u, hu, hdetach⟩ :=
      (hsends.enters taken fun _ => nofun).justified (provenance_before hstart runAll)
    obtain ⟨hgone, hothers⟩ :=
      detach_effect hdetach (runBefore.taken_of_mem (mem_of_mem_sinceRequest hu))
    exact ⟨req, owner, hdevice, hauth, u, hu, hdetach, hgone, hothers⟩

end

namespace Sample

def otherPeer : PeerFingerprint := Vector.replicate 32 2

/-- The keyboard is leased to the first peer. -/
def leased : List Action := pair 0 peer 9 ++ attach 0 9

/-- Another peer pairs, tries to attach the keyboard, and leaves. -/
def intrusion : ServerHistory × World :=
  replay (World.step platform)
    (pair 1 otherPeer 5 ++ attach 1 5 ++ [.fail 1, .release 1]) ([], (after leased).2)

end Sample

theorem sample_cross_peer_isolation :
    ∃ w, World.Runs Sample.platform Sample.start (Sample.after Sample.leased).1 w ∧
      World.Runs Sample.platform w Sample.intrusion.1 Sample.intrusion.2 ∧
      Sample.intrusion.1.length = 15 ∧
      Sample.intrusion.2.server.leases.owner 1 = some Sample.peer := by
  have run := Sample.runs Sample.leased
  have hheld : (Sample.after Sample.leased).2.server.leases.owner 1 = some Sample.peer := by
    decide +kernel
  have foreign : World.Runs Sample.platform (Sample.after Sample.leased).2 Sample.intrusion.1
      Sample.intrusion.2 :=
    Run.nil.replay _
  have hnot : ∀ t ∈ Sample.intrusion.1, NotAs Sample.peer t := by decide +kernel
  have hplugged : ∀ t ∈ Sample.intrusion.1, ¬ Unplugs 1 t := by decide +kernel
  exact ⟨_, run, foreign, by decide +kernel,
    (cross_peer_isolation Sample.starting run hheld foreign hnot).1 hplugged⟩

end FarBus.Core
