/-
  Core/Execution.lean --- who holds the lease when a URB is executed.

  The reader checks the lease, takes a presence token, waits for a slot and spawns a
  task; the task loads the token's flag and hands the URB to a backend.  The lease is
  not looked at again, and the flag tells of a removed device only: a detach or the
  end of a session in between goes unnoticed.  `exclusive_use` says that nothing else
  does, and `executed_for_former_owner` is a run in which the next owner's device
  executes a URB of the former one.
-/
import FarBus.Core.LeaseLifetime
import FarBus.Core.Revocation

set_option autoImplicit false

namespace FarBus.Core

open FarBus.Foundation
open FarBus.Protocol

/-! ## URBs on their way -/

/-- How far a URB past its lease check has come. -/
inductive Stage where
  /-- the presence token is to be taken -/
  | leased
  /-- the flag of its token is to be loaded -/
  | guarded (presence : PresenceToken)
  /-- the flag was set, and the device is to be looked up -/
  | lookup (presence : PresenceToken)
  /-- all checks are done -/
  | handing
  deriving DecidableEq

/-- The next check is whether the device is there. -/
def Stage.looksUp : Stage → Bool
  | .leased | .lookup _ => true
  | .guarded _ | .handing => false

/-- A URB past its lease check that no backend has been given yet. -/
structure InFlight where
  urb : UrbSubmit
  owner : PeerFingerprint
  stage : Stage

def Session.inFlight (self : Session) : Option InFlight :=
  match self.pc with
  | .urbPresence urb owner => some ⟨urb, owner, .leased⟩
  | .urbSlot urb owner presence => some ⟨urb, owner, .guarded presence⟩
  | _ => none

def Task.inFlight (self : Task) : Option InFlight :=
  match self.pc with
  | .start | .blocking _ => some ⟨self.urb, self.owner, .guarded self.presence⟩
  | .snapshot => some ⟨self.urb, self.owner, .lookup self.presence⟩
  | .callCustom | .callHost _ | .callEmulated => some ⟨self.urb, self.owner, .handing⟩
  | _ => none

def World.inFlight (self : World) : List InFlight :=
  self.sessions.filterMap Session.inFlight ++ self.tasks.filterMap Task.inFlight

theorem World.mem_inFlight_iff (w : World) (x : InFlight) :
    x ∈ w.inFlight ↔
      (∃ (s : Nat) (session : Session), w.sessions[s]? = some session ∧ session.inFlight = some x) ∨
      ∃ (i : Nat) (task : Task), w.tasks[i]? = some task ∧ task.inFlight = some x := by
  unfold World.inFlight
  rw [List.mem_append, List.mem_filterMap, List.mem_filterMap]
  simp only [List.mem_iff_getElem?]
  constructor
  · intro h
    rcases h with ⟨session, ⟨s, mem⟩, hx⟩ | ⟨task, ⟨i, mem⟩, hx⟩
    · exact .inl ⟨s, session, mem, hx⟩
    · exact .inr ⟨i, task, mem, hx⟩
  · intro h
    rcases h with ⟨s, session, mem, hx⟩ | ⟨i, task, mem, hx⟩
    · exact .inl ⟨session, ⟨s, mem⟩, hx⟩
    · exact .inr ⟨task, ⟨i, mem⟩, hx⟩

/-! ## What a step does to them -/

/-- Where a URB in flight after a step comes from, if it was not there in this stage
before. -/
inductive Progress (w : World) (x : InFlight) : Prop where
  | leased (stage : x.stage = .leased)
      (held : w.server.leases.owner x.urb.deviceId = some x.owner)
  | guarded {presence : PresenceToken} (stage : x.stage = .guarded presence)
      (before : ⟨x.urb, x.owner, .leased⟩ ∈ w.inFlight)
      (token : w.server.devices.presenceToken x.urb.deviceId = some presence)
  | loaded {presence : PresenceToken} (stage : x.stage = .lookup presence ∨ x.stage = .handing)
      (before : ⟨x.urb, x.owner, .guarded presence⟩ ∈ w.inFlight)
      (set : w.server.devices.load presence = true)
  | found {presence : PresenceToken} (stage : x.stage = .guarded presence ∨ x.stage = .handing)
      (before : ⟨x.urb, x.owner, .lookup presence⟩ ∈ w.inFlight)
      (present : ∃ device ∈ w.server.devices.snapshot, device.info.id = x.urb.deviceId)

section

variable {platform : Platform} {w w' : World} {act : Action} {x : InFlight}

theorem Session.inFlight_dispatch (platform : Platform) (server : ServerState) (session : Session)
    (msg : Message) : (session.dispatch platform server msg).inFlight = none := by
  unfold Session.dispatch
  split <;> (try split) <;> rfl

/-- The reader's sections. -/
theorem Session.inFlight_advance {session : Session} {s : Nat} {now : Instant} {draw : Draw}
    {outcome : Outcome} (found : w.sessions[s]? = some session)
    (entered : session.AdvanceCases platform now draw w.server s outcome)
    (hx : outcome.session.inFlight = some x) : Progress w x ∧ session.leaseOp w.server = none := by
  cases entered with
  | @urbLeased urb owner pc leased =>
      cases hx
      refine ⟨.leased rfl leased, ?_⟩
      simp only [Session.leaseOp, pc]
  | @urbPresent urb owner presence pc present =>
      cases hx
      refine ⟨.guarded rfl ?_ present, ?_⟩
      · apply (w.mem_inFlight_iff _).mpr
        refine .inl ⟨s, session, found, ?_⟩
        simp only [Session.inFlight, pc]
      · simp only [Session.leaseOp, pc]
  | _ => cases hx

/-- The task's steps. -/
theorem Task.inFlight_advance {task : Task} {i : Nat} {io : TaskIo} {pc : TaskPc}
    (found : w.tasks[i]? = some task) (taken : task.advance w.server io = some pc)
    (hx : ({ task with pc } : Task).inFlight = some x) : Progress w x := by
  have hbefore : ∀ y, task.inFlight = some y → y ∈ w.inFlight := fun y hy =>
    (w.mem_inFlight_iff y).mpr (.inr ⟨i, task, found, hy⟩)
  unfold Task.inFlight at hbefore
  unfold Task.advance at taken
  split at taken
  · rename_i hpc
    simp only [hpc] at hbefore
    split at taken
    · rename_i hset
      split at taken
      · cases taken
        cases hx
        exact .loaded (.inr rfl) (hbefore _ rfl) hset
      · cases taken
        cases hx
        exact .loaded (.inl rfl) (hbefore _ rfl) hset
    · cases taken
      cases hx
  · cases taken
    cases hx
  · split at taken
    · split at taken
      · cases taken
        cases hx
      · cases taken
    · cases taken
  · rename_i hpc
    simp only [hpc] at hbefore
    dsimp only at taken
    split at taken
    · rename_i hbackend
      obtain ⟨device, hfind, -⟩ := Option.map_eq_some_iff.mp hbackend
      cases taken
      cases hx
      exact .found (.inl rfl) (hbefore _ rfl)
        ⟨device, List.mem_of_find?_eq_some hfind, by simpa using List.find?_some hfind⟩
    · rename_i hbackend
      obtain ⟨device, hfind, -⟩ := Option.map_eq_some_iff.mp hbackend
      cases taken
      cases hx
      exact .found (.inr rfl) (hbefore _ rfl)
        ⟨device, List.mem_of_find?_eq_some hfind, by simpa using List.find?_some hfind⟩
    · cases taken
      cases hx
  · rename_i hpc
    simp only [hpc] at hbefore
    split at taken
    · rename_i hset
      cases taken
      cases hx
      exact .loaded (.inr rfl) (hbefore _ rfl) hset
    · cases taken
      cases hx
  all_goals cases taken
  all_goals cases hx

/-- A URB in flight was in flight before, in the same stage or in an earlier one; in
the second case the step changed neither the leases nor the inventory. -/
theorem step_inFlight (taken : w.step platform act = some w') (hx : x ∈ w'.inFlight) :
    x ∈ w.inFlight ∨ Progress w x ∧ w'.server.leases = w.server.leases ∧
      w'.server.devices = w.server.devices := by
  have hdevices : (∀ scanned, act ≠ .refreshHostDevices scanned) →
      w'.server.devices = w.server.devices := by
    intro hne
    rcases World.step_devices taken with hsame | ⟨scanned, hact, -⟩
    · exact hsame
    · exact absurd hact (hne scanned)
  rcases (w'.mem_inFlight_iff x).mp hx with ⟨s, session', mem', hx⟩ | ⟨i, task', mem', hx⟩
  · rcases World.step_session taken mem' with ⟨-, -, rfl⟩ | ⟨session, mem, hmove⟩
    · cases hx
    · cases hmove with
      | kept quiet peer principal pc =>
          refine .inl ((w.mem_inFlight_iff x).mpr (.inl ⟨s, session, mem, ?_⟩))
          unfold Session.inFlight at hx ⊢
          rw [← pc]
          exact hx
      | recv msg hact pc result =>
          rw [result, Session.inFlight_dispatch] at hx
          cases hx
      | advance draw outcome hact entered result =>
          subst hact
          rw [result] at hx
          obtain ⟨hprogress, hop⟩ := Session.inFlight_advance mem entered hx
          refine .inr ⟨hprogress, ?_, hdevices fun _ => Action.noConfusion⟩
          rw [World.step_leases taken]
          simp only [World.leaseOp, mem, Option.bind_eq_bind, Option.bind_some, hop,
            LeaseBook.update]
      | left quiet live peer principal pc =>
          unfold Session.inFlight at hx
          rcases pc with pc | pc | pc <;> rw [pc] at hx <;> cases hx
  · rcases World.step_task taken mem' with mem | ⟨task, io, pc, rfl, mem, hadvance, rfl⟩ |
      ⟨s, draw, session, urb, owner, presence, rfl, mem, pc, rfl⟩
    · exact .inl ((w.mem_inFlight_iff x).mpr (.inr ⟨i, task', mem, hx⟩))
    · exact .inr ⟨Task.inFlight_advance mem hadvance hx, World.step_leases taken,
        hdevices fun _ => Action.noConfusion⟩
    · refine .inl ((w.mem_inFlight_iff x).mpr (.inl ⟨s, session, mem, ?_⟩))
      rw [← hx]
      simp only [Session.inFlight, pc, Task.inFlight]

end

/-! ## What a URB in flight may rely on -/

/-- The step is a refresh that makes the device present. -/
def Plugs (device : DeviceId) (t : Transition World Action) : Prop :=
  ∃ scanned, t.act = .refreshHostDevices scanned ∧
    device ∈ (t.pre.server.devices.refreshHosts scanned).1.added

/-- The step leaves the URBs in flight what they rely on: a lease that is held, past the
last load of the flag also the device, and the device's absence where the next check
is a lookup.  An id is made present again only once the counter is saturated. -/
structure Undisturbed (t : Transition World Action) : Prop where
  lease : ∀ x ∈ t.pre.inFlight, t.pre.server.leases.owner x.urb.deviceId = some x.owner →
    ¬ EndsLease x.urb.deviceId x.owner t
  device : ∀ x ∈ t.pre.inFlight, x.stage = .handing → ¬ Unplugs x.urb.deviceId t
  absence : ∀ x ∈ t.pre.inFlight, x.stage.looksUp = true → ¬ Plugs x.urb.deviceId t

instance (device : DeviceId) (peer : PeerFingerprint) (t : Transition World Action) :
    Decidable (EndsLease device peer t) :=
  inferInstanceAs (Decidable (_ ∨ ∃ s session, t.act = .release s ∧
    t.pre.sessions[s]? = some session ∧ session.principal = some peer))

instance (device : DeviceId) (t : Transition World Action) : Decidable (Plugs device t) :=
  inferInstanceAs (Decidable (∃ scanned, t.act = .refreshHostDevices scanned ∧
    device ∈ (t.pre.server.devices.refreshHosts scanned).1.added))

instance (t : Transition World Action) : Decidable (Undisturbed t) :=
  decidable_of_iff
    (∀ x ∈ t.pre.inFlight,
      (t.pre.server.leases.owner x.urb.deviceId = some x.owner →
        ¬ EndsLease x.urb.deviceId x.owner t) ∧
      (x.stage = .handing → ¬ Unplugs x.urb.deviceId t) ∧
      (x.stage.looksUp = true → ¬ Plugs x.urb.deviceId t)) <| by
    constructor
    · intro h
      exact ⟨fun x hx => (h x hx).1, fun x hx => (h x hx).2.1, fun x hx => (h x hx).2.2⟩
    · intro h x hx
      exact ⟨h.lease x hx, h.device x hx, h.absence x hx⟩

/-- The lease is held, or the next check fails. -/
def InFlight.Held (server : ServerState) (x : InFlight) : Prop :=
  match x.stage with
  | .leased => server.leases.owner x.urb.deviceId = some x.owner ∨
      x.urb.deviceId ∉ server.devices.present
  | .guarded presence => server.leases.owner x.urb.deviceId = some x.owner ∧
      server.devices.presence[x.urb.deviceId]? = some presence ∨ server.devices.Revoked presence
  | .lookup presence => server.leases.owner x.urb.deviceId = some x.owner ∧
      server.devices.presence[x.urb.deviceId]? = some presence ∨
        x.urb.deviceId ∉ server.devices.present
  | .handing => server.leases.owner x.urb.deviceId = some x.owner

section

variable {platform : Platform} {start w w' : World} {history later earlier : ServerHistory}
  {t : Transition World Action} {x : InFlight}

/-- A check that succeeds leaves the lease. -/
theorem Progress.held (h : Progress w x) (hformed : w.server.devices.WellFormed)
    (hinv : ∀ y ∈ w.inFlight, y.Held w.server) : x.Held w.server := by
  obtain ⟨urb, owner, stage⟩ := x
  cases h with
  | leased hstage held =>
      subst hstage
      exact .inl held
  | guarded hstage before token =>
      subst hstage
      have hpresent : urb.deviceId ∈ w.server.devices.present :=
        (hformed.presence _).mp ((mem_iff_lookup _ _).mpr ⟨_, token⟩)
      rcases hinv _ before with hheld | habsent
      · exact .inl ⟨hheld, token⟩
      · exact absurd hpresent habsent
  | loaded hstage before set =>
      have hheld := hinv _ before
      rcases hheld with hheld | hrevoked
      · rcases hstage with hstage | hstage
        · subst hstage
          exact .inl hheld
        · subst hstage
          exact hheld.1
      · rw [DeviceInventory.not_load_of_revoked hrevoked] at set
        cases set
  | found hstage before present =>
      obtain ⟨device, hdevice, hid⟩ := present
      have hpresent : urb.deviceId ∈ w.server.devices.present := by
        rw [← hid]
        exact (mem_iff_lookup _ _).mpr ⟨_, hformed.lookup_of_mem hdevice⟩
      rcases hinv _ before with hheld | habsent
      · rcases hstage with hstage | hstage
        · subst hstage
          exact .inl hheld
        · subst hstage
          exact hheld.1
      · exact absurd hpresent habsent

theorem absent_step {device : DeviceId} (taken : t.pre.step platform t.act = some t.post)
    (hplugs : ¬ Plugs device t) (h : device ∉ t.pre.server.devices.present) :
    device ∉ t.post.server.devices.present := by
  rcases World.step_devices taken with hsame | ⟨scanned, hact, hrefreshed⟩
  · rw [hsame]
    exact h
  · rw [hrefreshed]
    intro hafter
    exact hplugs ⟨scanned, hact,
      (DeviceInventory.refreshHosts_spec _ scanned).appeared device hafter h⟩

/-- A URB that stays where it is keeps what it may rely on. -/
theorem InFlight.Held.step (h : x.Held t.pre.server) (mem : x ∈ t.pre.inFlight)
    (hformed : t.pre.server.devices.WellFormed)
    (taken : t.pre.step platform t.act = some t.post) (hundisturbed : Undisturbed t) :
    x.Held t.post.server := by
  have hends := hundisturbed.lease x mem
  have hdevice := hundisturbed.device x mem
  have habsence := hundisturbed.absence x mem
  obtain ⟨urb, owner, stage⟩ := x
  cases stage with
  | leased =>
      rcases h with hheld | habsent
      · by_cases hplugged : Unplugs urb.deviceId t
        · exact .inr (hplugged.absent taken)
        · exact .inl (lease_step taken hplugged (hends hheld) hheld)
      · exact .inr (absent_step taken (habsence rfl) habsent)
  | guarded presence =>
      rcases h with ⟨hheld, htoken⟩ | hrevoked
      · by_cases hplugged : Unplugs urb.deviceId t
        · exact .inr (hplugged.revoked taken hformed htoken)
        · exact .inl ⟨lease_step taken hplugged (hends hheld) hheld, token_step taken hplugged htoken⟩
      · exact .inr (revoked_step taken hrevoked)
  | lookup presence =>
      rcases h with ⟨hheld, htoken⟩ | habsent
      · by_cases hplugged : Unplugs urb.deviceId t
        · exact .inr (hplugged.absent taken)
        · exact .inl ⟨lease_step taken hplugged (hends hheld) hheld, token_step taken hplugged htoken⟩
      · exact .inr (absent_step taken (habsence rfl) habsent)
  | handing => exact lease_step taken (hdevice rfl) (hends h) h

/-- The invariant of an undisturbed run. -/
theorem held_run (hstart : World.Starting platform start)
    (run : World.Runs platform start history w) (hundisturbed : ∀ t ∈ history, Undisturbed t) :
    ∀ x ∈ w.inFlight, x.Held w.server := by
  induction run with
  | nil =>
      intro x hx
      cases hstart <;> cases hx
  | @snoc history pre post act run taken ih =>
      have hinv := ih fun t ht => hundisturbed t (List.mem_cons_of_mem _ ht)
      have hformed := inventory_wellFormed hstart run
      intro x hx
      rcases step_inFlight taken hx with hbefore | ⟨hprogress, hleases, hdevices⟩
      · exact (hinv x hbefore).step (t := ⟨pre, act, post⟩) hbefore hformed taken
          (hundisturbed _ List.mem_cons_self)
      · have hheld := hprogress.held hformed hinv
        unfold InFlight.Held at hheld ⊢
        rw [hleases, hdevices]
        exact hheld

/-! ## Execution -/

/-- In `t`, a task hands its URB to the custom completer, to libusb or to the emulator. -/
def HandedOver (i : Nat) (task : Task) (t : Transition World Action) : Prop :=
  (∃ io, t.act = .task i io) ∧ t.pre.tasks[i]? = some task ∧ task.HandsOver

/-- In `t`, session `s` spawns a task for a URB that it was sent with `peer` as
principal. -/
def SpawnedFor (s : Nat) (urb : UrbSubmit) (peer : PeerFingerprint)
    (t : Transition World Action) : Prop :=
  ∃ draw session presence, t.act = .advance s draw ∧ t.pre.sessions[s]? = some session ∧
    session.principal = some peer ∧ session.pc = .urbSlot urb peer presence

theorem Task.inFlight_of_handsOver {task : Task} (h : task.HandsOver) :
    task.inFlight = some ⟨task.urb, task.owner, .handing⟩ := by
  unfold Task.HandsOver at h
  unfold Task.inFlight
  split at h
  · rename_i hpc
    simp only [hpc]
  · rename_i hpc
    simp only [hpc]
  · rename_i hpc
    simp only [hpc]
  · cases h

/-- Every task was spawned by its session for its owner. -/
theorem task_spawned (hstart : World.Starting platform start)
    (run : World.Runs platform start history w) {i : Nat} {task : Task}
    (mem : w.tasks[i]? = some task) :
    ∃ u ∈ history, SpawnedFor task.session task.urb task.owner u := by
  induction run generalizing i task with
  | nil => cases hstart <;> cases mem
  | @snoc history pre post act run taken ih =>
      have hlift : ∀ {s urb peer}, (∃ u ∈ history, SpawnedFor s urb peer u) →
          ∃ u ∈ ⟨pre, act, post⟩ :: history, SpawnedFor s urb peer u := by
        intro s urb peer h
        obtain ⟨u, hu, hspawned⟩ := h
        exact ⟨u, List.mem_cons_of_mem _ hu, hspawned⟩
      rcases World.step_task taken mem with hbefore | ⟨before, io, pc, -, hbefore, -, rfl⟩ |
        ⟨s, draw, session, urb, owner, presence, hact, found, pc, rfl⟩
      · exact hlift (ih hbefore)
      · have hspawned := ih hbefore
        exact hlift hspawned
      · have hprincipal : session.principal = some owner := by
          apply ((provenance hstart run).session s session found).actsFor
          rw [pc]
          rfl
        exact ⟨_, List.mem_cons_self, draw, session, presence, hact, found, hprincipal, pc⟩

/-- Exclusive use at execution time, in a run that does not disturb URBs in flight: when
a task hands a URB over, the device is leased to the principal that the session had
when it was sent the URB. -/
theorem exclusive_use (hstart : World.Starting platform start)
    (run : World.Runs platform start (later ++ t :: earlier) w)
    (hundisturbed : ∀ u ∈ earlier, Undisturbed u) {i : Nat} {task : Task}
    (handed : HandedOver i task t) :
    (∃ u ∈ earlier, SpawnedFor task.session task.urb task.owner u) ∧
      t.pre.server.leases.owner task.urb.deviceId = some task.owner := by
  obtain ⟨-, mem, hands⟩ := handed
  have runBefore := run.cut.1
  refine ⟨task_spawned hstart runBefore mem, ?_⟩
  have hx : ⟨task.urb, task.owner, .handing⟩ ∈ t.pre.inFlight :=
    (t.pre.mem_inFlight_iff _).mpr (.inr ⟨i, task, mem, Task.inFlight_of_handsOver hands⟩)
  exact held_run hstart runBefore hundisturbed _ hx

end

namespace Sample

/-- The URB is admitted, and its task is about to call `complete_urb`. -/
def prepared : List Action := admissible ++ [.advance 0 (draw 0), .task 0 io, .task 0 io]

/-- The peer detaches the keyboard meanwhile, and another peer attaches it. -/
def reassigned : List Action :=
  prepared ++
    [.recv 0 (.detachRequest { deviceId := 1, authToken := Vector.replicate 32 9 }),
      .advance 0 (draw 0), .advance 0 (draw 0), .advance 0 (draw 0), .advance 0 (draw 0)] ++
    pair 1 otherPeer 5 ++ attach 1 5

def preparedTask : Task := { session := 0, urb, presence := 0, owner := peer, pc := .callEmulated }

end Sample

theorem sample_exclusive_use :
    ∃ w, World.Runs Sample.platform Sample.start
        (Sample.last Sample.prepared (.task 0 Sample.io) :: (Sample.after Sample.prepared).1) w ∧
      HandedOver 0 Sample.preparedTask (Sample.last Sample.prepared (.task 0 Sample.io)) ∧
      (Sample.after Sample.prepared).2.server.leases.owner 1 = some Sample.peer := by
  have run : World.Runs Sample.platform Sample.start
      ([] ++ Sample.last Sample.prepared (.task 0 Sample.io) :: _) _ :=
    Sample.runs_last _ _ (by decide +kernel)
  have handed : HandedOver 0 Sample.preparedTask
      (Sample.last Sample.prepared (.task 0 Sample.io)) :=
    ⟨⟨_, rfl⟩, by decide +kernel, trivial⟩
  have hundisturbed : ∀ u ∈ (Sample.after Sample.prepared).1, Undisturbed u := by decide +kernel
  exact ⟨_, run, handed, (exclusive_use Sample.starting run hundisturbed handed).2⟩

/-- A URB of the first peer is executed while the keyboard is leased to the second. -/
theorem executed_for_former_owner :
    ∃ w, World.Runs Sample.platform Sample.start
        (Sample.last Sample.reassigned (.task 0 Sample.io) :: (Sample.after Sample.reassigned).1) w ∧
      HandedOver 0 Sample.preparedTask (Sample.last Sample.reassigned (.task 0 Sample.io)) ∧
      Sample.preparedTask.owner = Sample.peer ∧ Sample.preparedTask.urb.deviceId = 1 ∧
      (∃ u ∈ (Sample.after Sample.reassigned).1, SpawnedFor 0 Sample.urb Sample.peer u) ∧
      (Sample.last Sample.reassigned (.task 0 Sample.io)).pre.server.leases.owner 1 =
        some Sample.otherPeer := by
  have run := Sample.runs_last Sample.reassigned (.task 0 Sample.io) (by decide +kernel)
  have handed : HandedOver 0 Sample.preparedTask
      (Sample.last Sample.reassigned (.task 0 Sample.io)) :=
    ⟨⟨_, rfl⟩, by decide +kernel, trivial⟩
  exact ⟨_, run, handed, rfl, rfl, task_spawned Sample.starting (Sample.runs _) handed.2.1,
    by decide +kernel⟩

end FarBus.Core
