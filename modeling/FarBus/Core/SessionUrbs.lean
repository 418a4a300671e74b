/-
  Core/SessionUrbs.lean --- a session of `serve_session` whose peer holds the lease of an
  emulated device.

  As long as the lease and a token of the peer are valid and the device stays, every URB
  the session reads is let through, and every task it spawns for one computes what
  `complete_urb` computes.  An emulated device has one presence token for as long as it
  stays in the inventory.
-/
import FarBus.Foundation.Conservation
import FarBus.Core.LeaseRuns
import FarBus.Core.PresenceTokens

set_option autoImplicit false

namespace FarBus.Core

open FarBus.Foundation
open FarBus.Protocol

theorem World.tokened_run {platform : Platform} {start w : World} {history : History World Action}
    (starting : World.Starting platform start) (run : World.Runs platform start history w) :
    w.server.devices.Tokened :=
  devices_invariant _ DeviceInventory.tokened_new (fun _ scanned h => h.refreshHosts scanned)
    starting run

/-! ## Permits -/

/-- The task has a permit of session `s`. -/
def Task.holdsPermit (s : Nat) (self : Task) : Bool :=
  self.session = s && match self.pc with
    | .sending _ | .finished => false
    | _ => true

/-- The permits of a session are in its semaphore or with its tasks. -/
structure Permits (w : World) : Prop where
  home : ∀ task ∈ w.tasks, task.session < w.sessions.length
  conserved : ∀ (s : Nat) session, w.sessions[s]? = some session →
    session.slots + w.tasks.countP (Task.holdsPermit s) = MAX_IN_FLIGHT_URBS

section

variable {platform : Platform} {start w w' : World} {act : Action} {history : History World Action}

/-- A session changes, and neither its permits nor any task. -/
theorem Permits.setSession (h : Permits w) {i : Nat} {old new : Session}
    (found : w.sessions[i]? = some old) (sessions : w'.sessions = w.sessions.set i new)
    (tasks : w'.tasks = w.tasks) (slots : new.slots = old.slots) : Permits w' where
  home task mem := by
    rw [tasks] at mem
    rw [sessions, List.length_set]
    exact h.home task mem
  conserved s session found' := by
    rw [sessions] at found'
    rw [tasks]
    rcases lookup_set_cases found found' with ⟨rfl, hold, rfl⟩ | ⟨-, hold⟩
    · rw [slots]
      exact h.conserved i old found
    · exact h.conserved s session hold

/-- Only a spawned task takes a permit, and only its own session's. -/
theorem Session.AdvanceCases.slots {now : Instant} {draw : Draw} {server : ServerState} {index : Nat}
    {self : Session} {outcome : Outcome}
    (h : self.AdvanceCases platform now draw server index outcome) :
    outcome.spawned = none ∧ outcome.session.slots = self.slots ∨
      ∃ urb presence owner, outcome.spawned = some { session := index, urb, presence, owner } ∧
        0 < self.slots ∧ outcome.session.slots = self.slots - 1 := by
  cases h with
  | urbSpawned pc free => exact .inr ⟨_, _, _, rfl, free, rfl⟩
  | _ => exact .inl ⟨rfl, rfl⟩

/-- A task is spawned with a permit of its session. -/
theorem Permits.spawn (h : Permits w) {i : Nat} {old new : Session} {urb : UrbSubmit}
    {presence : PresenceToken} {owner : PeerFingerprint} (found : w.sessions[i]? = some old)
    (free : 0 < old.slots) (slots : new.slots = old.slots - 1)
    (sessions : w'.sessions = w.sessions.set i new)
    (tasks : w'.tasks = w.tasks ++ [{ session := i, urb, presence, owner }]) : Permits w' where
  home task mem := by
    rw [tasks] at mem
    rw [sessions, List.length_set]
    rcases List.mem_append.mp mem with mem | mem
    · exact h.home task mem
    · rw [List.mem_singleton.mp mem]
      exact (List.getElem?_eq_some_iff.mp found).1
  conserved s session found' := by
    rw [sessions] at found'
    rw [tasks, List.countP_append, List.countP_singleton]
    rcases lookup_set_cases found found' with ⟨rfl, hold, rfl⟩ | ⟨hne, hold⟩
    · have hbefore := h.conserved i old found
      rw [slots, if_pos (by simp [Task.holdsPermit])]
      omega
    · rw [if_neg (by simp [Task.holdsPermit, hne])]
      exact h.conserved s session hold

theorem Task.reach_slots {task : Task} {session reached : Session} {server : ServerState}
    {io : TaskIo} {pc : TaskPc} (taken : task.advance server io = some pc)
    (reach : task.reach session = some reached) :
    reached.slots + (if Task.holdsPermit task.session { task with pc } then 1 else 0) =
      session.slots + if task.holdsPermit task.session then 1 else 0 := by
  obtain ⟨home, urb, presence, owner, stage⟩ := task
  cases stage with
  | release result =>
      cases taken
      cases reach
      simp [Task.holdsPermit]
  | sending result =>
      cases taken
      dsimp only [Task.reach] at reach
      split at reach
      · cases reach
        simp [Task.holdsPermit]
      · split at reach
        · cases reach
          simp [Task.holdsPermit]
        · cases reach
  | finished => cases taken
  | start =>
      cases reach
      dsimp only [Task.advance] at taken
      split at taken
      · split at taken <;> cases taken <;> simp [Task.holdsPermit]
      · cases taken
        simp [Task.holdsPermit]
  | inCustom =>
      cases reach
      dsimp only [Task.advance] at taken
      split at taken
      · split at taken <;> cases taken
        simp [Task.holdsPermit]
      · cases taken
  | snapshot | blocking devices =>
      cases reach
      dsimp only [Task.advance] at taken
      split at taken <;> cases taken <;> simp [Task.holdsPermit]
  | callCustom | callHost | inHost | callEmulated | recheck =>
      cases reach
      cases taken
      simp [Task.holdsPermit]

theorem Permits.step (h : Permits w) (taken : w.step platform act = some w') : Permits w' := by
  cases World.step_cases taken with
  | tick | refreshHostDevices | renewExpiredPin => exact ⟨h.home, h.conserved⟩
  | accept =>
      refine ⟨?_, ?_⟩
      · intro task mem
        rw [List.length_append]
        exact Nat.lt_add_right _ (h.home task mem)
      · intro s session found'
        rw [List.getElem?_append] at found'
        split at found'
        · exact h.conserved s session found'
        · rename_i hge
          rw [List.getElem?_singleton] at found'
          split at found' <;> cases found'
          have hnone : w.tasks.countP (Task.holdsPermit s) = 0 := by
            rw [List.countP_eq_zero]
            intro task mem hholds
            have hhome := h.home task mem
            simp only [Task.holdsPermit, Bool.and_eq_true, decide_eq_true_eq] at hholds
            omega
          rw [hnone]
          rfl
  | recv msg found pc =>
      refine h.setSession found rfl rfl ?_
      unfold Session.dispatch
      split <;> (try split) <;> rfl
  | eof found | write found | fail found | joined found | release found =>
      exact h.setSession found rfl rfl rfl
  | @advance index session draw outcome found htaken =>
      rcases (Session.advance_cases htaken).slots with ⟨hspawned, hslots⟩ |
        ⟨urb, presence, owner, hspawned, free, hslots⟩
      · refine h.setSession found rfl ?_ hslots
        rw [hspawned]
        exact List.append_nil _
      · have htasks : w.tasks ++ outcome.spawned.toList =
            w.tasks ++ [{ session := index, urb, presence, owner }] := by
          rw [hspawned]
          rfl
        exact h.spawn found free hslots rfl htasks
  | @task index task session reached io pc found home htaken reach =>
      refine ⟨?_, ?_⟩
      · intro task' mem
        rw [World.setSession, List.length_set]
        rcases List.mem_or_eq_of_mem_set mem with mem | rfl
        · exact h.home task' mem
        · exact h.home task (List.mem_of_getElem? found)
      · intro s session' found'
        have hcount := countP_set (Task.holdsPermit s) found { task with pc }
        rcases lookup_set_cases home found' with ⟨rfl, hold, rfl⟩ | ⟨hne, hold⟩
        · have hbefore := h.conserved task.session session home
          have hslots := Task.reach_slots htaken reach
          dsimp only at hcount ⊢
          omega
        · have hbefore := h.conserved s session' hold
          have hother : ∀ task' : Task, task'.session = task.session →
              Task.holdsPermit s task' = false := by
            intro task' hsession
            simp [Task.holdsPermit, hsession, hne]
          rw [hother task rfl, hother { task with pc } rfl] at hcount
          dsimp only at hcount ⊢
          omega

theorem World.permits_run (starting : World.Starting platform start)
    (run : World.Runs platform start history w) : Permits w := by
  refine run.invariant Permits ?_ fun _ _ _ h taken => h.step taken
  cases starting <;> exact ⟨by simp [World.initial], by simp [World.initial]⟩

end

/-! ## URBs that are let through -/

/-- The peer may use the device now. -/
structure Entitled (deviceId : DeviceId) (owner : PeerFingerprint) (w : World) : Prop where
  completer : w.server.urbCompleter = none
  emulated : ∃ device, w.server.devices.get deviceId = some device ∧ device.backend = .emulated
  leased : w.server.leases.owner deviceId = some owner
  active : (w.server.tokens.toList.any fun entry =>
    entry.2.1 = owner && w.now ≤ entry.2.2) = true

/-- The connection of session `s` has not ended, on either side. -/
def World.Open (w : World) (s : Nat) : Prop :=
  ∃ session, w.sessions[s]? = some session ∧ session.joining = true ∧ session.pc ≠ .draining

/-- A request of a forwarder for the device, about a URB that was asked for. -/
def RequestFor (asked : UrbSubmit → Prop) (deviceId : DeviceId) : Message → Prop
  | .urbSubmit urb => asked urb
  | .urbUnlink unlink => unlink.deviceId = deviceId
  | _ => False

/-- What the emulator computes for one of these, or the answer to an unlink. -/
def AnswerFor (asked : UrbSubmit → Prop) : Message → Prop
  | .urbComplete complete => ∃ urb, asked urb ∧ complete = completeUrb urb
  | .urbUnlinked unlinked => unlinked.status = 0
  | _ => False

/-- The reader of a session that serves `owner`. -/
def Pc.Serves (asked : UrbSubmit → Prop) (deviceId : DeviceId) (owner : PeerFingerprint)
    (token : PresenceToken) : Pc → Prop
  | .reading => True
  | .urbTokens urb owner' | .urbPresence urb owner' => owner' = owner ∧ asked urb
  | .urbLease urb owner' active => owner' = owner ∧ asked urb ∧ active = true
  | .urbSlot urb owner' presence => owner' = owner ∧ asked urb ∧ presence = token
  | .unlinkLease unlink owner' => owner' = owner ∧ unlink.deviceId = deviceId
  | .replying msg => AnswerFor asked msg
  | _ => False

/-- A task of such a session. -/
def Task.Serves (asked : UrbSubmit → Prop) (token : PresenceToken) (self : Task) : Prop :=
  match self.pc with
  | .start | .snapshot | .callEmulated => asked self.urb ∧ self.presence = token
  | .release result | .sending result => asked self.urb ∧ result = completeUrb self.urb
  | .finished => True
  | _ => False

structure Session.Serves (asked : UrbSubmit → Prop) (deviceId : DeviceId) (owner : PeerFingerprint)
    (token : PresenceToken) (session : Session) : Prop where
  principal : session.principal = some owner
  pc : session.pc.Serves asked deviceId owner token
  queue : ∀ msg ∈ session.queue, AnswerFor asked msg

/-- Session `s` serves `owner`, with the device's token. -/
structure Serves (asked : UrbSubmit → Prop) (deviceId : DeviceId) (owner : PeerFingerprint)
    (token : PresenceToken) (s : Nat) (w : World) : Prop where
  present : w.server.devices.presenceToken deviceId = some token
  session : ∃ session, w.sessions[s]? = some session ∧
    session.Serves asked deviceId owner token
  tasks : ∀ task ∈ w.tasks, task.session = s → task.Serves asked token

section

variable {platform : Platform} {asked asked' : UrbSubmit → Prop} {deviceId : DeviceId}
  {owner : PeerFingerprint} {token : PresenceToken} {s : Nat} {w w' : World} {act : Action}

theorem RequestFor.mono (hmono : ∀ urb, asked urb → asked' urb) {msg : Message}
    (h : RequestFor asked deviceId msg) : RequestFor asked' deviceId msg := by
  cases msg with
  | urbSubmit urb => exact hmono urb h
  | urbUnlink => exact h
  | _ => exact h.elim

theorem AnswerFor.mono (hmono : ∀ urb, asked urb → asked' urb) {msg : Message}
    (h : AnswerFor asked msg) : AnswerFor asked' msg := by
  cases msg with
  | urbComplete complete =>
      obtain ⟨urb, hasked, hcomplete⟩ := h
      exact ⟨urb, hmono urb hasked, hcomplete⟩
  | urbUnlinked => exact h
  | _ => exact h.elim

theorem Pc.Serves.mono (hmono : ∀ urb, asked urb → asked' urb) {pc : Pc}
    (h : pc.Serves asked deviceId owner token) : pc.Serves asked' deviceId owner token := by
  cases pc with
  | replying msg => exact AnswerFor.mono hmono h
  | urbTokens urb | urbPresence urb => exact ⟨h.1, hmono urb h.2⟩
  | urbLease urb | urbSlot urb => exact ⟨h.1, hmono urb h.2.1, h.2.2⟩
  | reading | unlinkLease => exact h
  | pairing | issuing | paired | authorizing | authorized | listing | attaching | detaching
  | draining | closing | ended => exact h.elim

theorem Task.Serves.mono (hmono : ∀ urb, asked urb → asked' urb) {task : Task}
    (h : task.Serves asked token) : task.Serves asked' token := by
  unfold Task.Serves at h ⊢
  cases hpc : task.pc with
  | start | snapshot | callEmulated | release | sending =>
      rw [hpc] at h
      exact ⟨hmono _ h.1, h.2⟩
  | finished => trivial
  | callCustom | inCustom | blocking | callHost | inHost | recheck =>
      rw [hpc] at h
      exact h.elim

/-- More may have been asked for. -/
theorem Serves.mono (h : Serves asked deviceId owner token s w)
    (hmono : ∀ urb, asked urb → asked' urb) : Serves asked' deviceId owner token s w where
  present := h.present
  session := by
    obtain ⟨session, found, hserves⟩ := h.session
    exact ⟨session, found, hserves.principal, hserves.pc.mono hmono,
      fun msg mem => (hserves.queue msg mem).mono hmono⟩
  tasks task mem home := (h.tasks task mem home).mono hmono

/-- A message of the forwarder is taken up. -/
theorem Session.Serves.dispatch {session : Session} {server : ServerState}
    (h : session.Serves asked deviceId owner token) {msg : Message}
    (hrequest : RequestFor asked deviceId msg) :
    (session.dispatch platform server msg).Serves asked deviceId owner token := by
  cases msg with
  | urbSubmit urb =>
      simp only [Session.dispatch, h.principal]
      exact ⟨rfl, ⟨rfl, hrequest⟩, h.queue⟩
  | urbUnlink unlink =>
      simp only [Session.dispatch, h.principal]
      exact ⟨rfl, ⟨rfl, hrequest⟩, h.queue⟩
  | _ => exact hrequest.elim

/-- A section of its reader: nothing is refused. -/
theorem Session.Serves.advance {session : Session} {draw : Draw} {outcome : Outcome}
    (h : session.Serves asked deviceId owner token) (hentitled : Entitled deviceId owner w)
    (htoken : w.server.devices.presenceToken deviceId = some token)
    (hasked : ∀ urb, asked urb → urb.deviceId = deviceId)
    (taken : session.AdvanceCases platform w.now draw w.server s outcome) :
    outcome.session.Serves asked deviceId owner token ∧
      ∀ task ∈ outcome.spawned, task.Serves asked token := by
  have hpc := h.pc
  cases taken with
  | replied pc room =>
      rw [pc] at hpc
      refine ⟨⟨h.principal, trivial, ?_⟩, by simp⟩
      intro msg mem
      rcases List.mem_append.mp mem with mem | mem
      · exact h.queue msg mem
      · rw [List.mem_singleton.mp mem]
        exact hpc
  | tokensExamined pc =>
      rw [pc] at hpc
      obtain ⟨rfl, hurb⟩ := hpc
      exact ⟨⟨h.principal, ⟨rfl, hurb, hentitled.active⟩, h.queue⟩, by simp⟩
  | urbLeased pc leased =>
      rw [pc] at hpc
      exact ⟨⟨h.principal, ⟨hpc.1, hpc.2.1⟩, h.queue⟩, by simp⟩
  | urbRefused pc refused =>
      rw [pc] at hpc
      obtain ⟨rfl, hurb, hactive⟩ := hpc
      exact absurd ⟨hactive, by rw [hasked _ hurb]; exact hentitled.leased⟩ refused
  | urbAbsent pc absent =>
      rw [pc] at hpc
      rw [hasked _ hpc.2, htoken] at absent
      cases absent
  | urbPresent pc present =>
      rw [pc] at hpc
      rw [hasked _ hpc.2, htoken] at present
      cases present
      exact ⟨⟨h.principal, ⟨hpc.1, hpc.2, rfl⟩, h.queue⟩, by simp⟩
  | urbSpawned pc free =>
      rw [pc] at hpc
      refine ⟨⟨h.principal, trivial, h.queue⟩, ?_⟩
      intro task mem
      cases mem
      exact ⟨hpc.2.1, hpc.2.2⟩
  | unlinked pc =>
      rw [pc] at hpc
      obtain ⟨rfl, hdevice⟩ := hpc
      refine ⟨⟨h.principal, ?_, h.queue⟩, by simp⟩
      show (if _ then (0 : Int32) else -13) = 0
      rw [if_pos]
      rw [hdevice]
      exact hentitled.leased
  | pinAccepted pc | pinRefused pc | issued pc | paired pc | tokenUnknown pc | tokenRefused pc
  | tokenAccepted pc | authorizedDevices pc | authorizedAttach pc | authorizedDetach pc | listed pc
  | attachUnknown pc | attached pc | detached pc =>
      rw [pc] at hpc
      exact hpc.elim

/-- A task goes on to what the emulator computes. -/
theorem Task.Serves.advance {task : Task} {io : TaskIo} {pc : TaskPc}
    (h : task.Serves asked token) (hentitled : Entitled deviceId owner w)
    (hformed : w.server.devices.WellFormed) (hset : w.server.devices.load token = true)
    (hasked : ∀ urb, asked urb → urb.deviceId = deviceId)
    (taken : task.advance w.server io = some pc) : Task.Serves asked token { task with pc } := by
  unfold Task.Serves at h
  unfold Task.advance at taken
  cases hpc : task.pc with
  | start =>
      rw [hpc] at h taken
      simp only [h.2, hset, if_true, hentitled.completer, Option.some.injEq] at taken
      subst taken
      exact h
  | snapshot =>
      obtain ⟨device, hget, hbackend⟩ := hentitled.emulated
      rw [hpc] at h taken
      have hfind := DeviceInventory.find?_snapshot hformed hget
      rw [← hasked _ h.1] at hfind
      simp only [ServerState.devicesSnapshot, hfind, Option.map_some, hbackend,
        Option.some.injEq] at taken
      subst taken
      exact h
  | callEmulated =>
      rw [hpc] at h taken
      cases taken
      exact ⟨h.1, rfl⟩
  | release result =>
      rw [hpc] at h taken
      cases taken
      exact h
  | sending result =>
      rw [hpc] at taken
      cases taken
      trivial
  | finished =>
      rw [hpc] at taken
      cases taken
  | callCustom | inCustom | blocking | callHost | inHost | recheck =>
      rw [hpc] at h
      exact h.elim

theorem Task.Serves.reach {task : Task} {session reached : Session}
    (h : task.Serves asked token) (hsession : session.Serves asked deviceId owner token)
    (reach : task.reach session = some reached) : reached.Serves asked deviceId owner token := by
  unfold Task.Serves at h
  unfold Task.reach at reach
  split at reach
  · cases reach
    exact ⟨hsession.principal, hsession.pc, hsession.queue⟩
  · rename_i result hpc
    rw [hpc] at h
    split at reach
    · cases reach
      exact hsession
    · split at reach
      · cases reach
        refine ⟨hsession.principal, hsession.pc, ?_⟩
        intro msg mem
        rcases List.mem_append.mp mem with mem | mem
        · exact hsession.queue msg mem
        · rw [List.mem_singleton.mp mem]
          exact ⟨task.urb, h.1, h.2⟩
      · cases reach
  · cases reach
    exact hsession

/-- The token stays where it is. -/
theorem Serves.present_step (h : Serves asked deviceId owner token s w)
    (taken : w.step platform act = some w')
    (hthere : ∃ device, w'.server.devices.get deviceId = some device) :
    w'.server.devices.presenceToken deviceId = some token := by
  obtain ⟨device, hget⟩ := hthere
  rcases World.step_devices taken with hsame | ⟨scanned, -, hrefreshed⟩
  · rw [hsame]
    exact h.present
  · rw [hrefreshed] at hget ⊢
    exact DeviceInventory.refreshHosts_token scanned h.present hget

/-- A session that serves the peer goes on doing so. -/
theorem Serves.step (h : Serves asked deviceId owner token s w)
    (hentitled : Entitled deviceId owner w) (hformed : w.server.devices.WellFormed)
    (htokened : w.server.devices.Tokened) (hasked : ∀ urb, asked urb → urb.deviceId = deviceId)
    (taken : w.step platform act = some w')
    (hthere : ∃ device, w'.server.devices.get deviceId = some device) (hopen' : w'.Open s)
    (hrecv : ∀ msg, act = .recv s msg → RequestFor asked deviceId msg) :
    Serves asked deviceId owner token s w' := by
  obtain ⟨session, found, hsession⟩ := h.session
  have hset : w.server.devices.load token = true := by
    unfold DeviceInventory.load
    rw [List.getD_eq_getElem?_getD, htokened.set deviceId token h.present]
    rfl
  -- the session, where another one moves
  have hother : ∀ {i : Nat} {new : Session}, i ≠ s →
      ∃ session, (w.sessions.set i new)[s]? = some session ∧
        session.Serves asked deviceId owner token :=
    fun hne => ⟨session, (List.getElem?_set_ne hne).trans found, hsession⟩
  have hself : ∀ {new : Session}, (w.sessions.set s new)[s]? = some new :=
    lookup_set_self found _
  -- the session does not leave
  have hstays : ∀ {new : Session}, w'.sessions = w.sessions.set s new →
      new.joining = true ∧ new.pc ≠ .draining := by
    intro new hsessions
    obtain ⟨session', found', hjoining, hpc⟩ := hopen'
    rw [hsessions, hself] at found'
    cases found'
    exact ⟨hjoining, hpc⟩
  have hpresent := h.present_step taken hthere
  cases World.step_cases taken with
  | tick | refreshHostDevices | renewExpiredPin =>
      exact ⟨hpresent, ⟨session, found, hsession⟩, h.tasks⟩
  | accept =>
      refine ⟨hpresent, ⟨session, ?_, hsession⟩, h.tasks⟩
      exact (List.getElem?_append_left (List.getElem?_eq_some_iff.mp found).1).trans found
  | @recv i old msg hfound pc =>
      refine ⟨hpresent, ?_, h.tasks⟩
      by_cases hi : i = s
      · subst hi
        obtain rfl := Option.some.inj (found.symm.trans hfound)
        exact ⟨_, hself, hsession.dispatch (hrecv msg rfl)⟩
      · exact hother hi
  | @eof i old hfound pc =>
      refine ⟨hpresent, ?_, h.tasks⟩
      by_cases hi : i = s
      · subst hi
        exact absurd rfl (hstays rfl).2
      · exact hother hi
  | @advance i old draw outcome hfound htaken =>
      by_cases hi : i = s
      · subst hi
        obtain rfl := Option.some.inj (found.symm.trans hfound)
        obtain ⟨hserves, hspawned⟩ := hsession.advance hentitled h.present hasked
          (Session.advance_cases htaken)
        refine ⟨hpresent, ⟨_, hself, hserves⟩, ?_⟩
        intro task mem home
        rcases List.mem_append.mp mem with mem | mem
        · exact h.tasks task mem home
        · exact hspawned task (Option.mem_toList.mp mem)
      · refine ⟨hpresent, hother hi, ?_⟩
        intro task mem home
        rcases List.mem_append.mp mem with mem | mem
        · exact h.tasks task mem home
        · -- a task of another session
          rcases (Session.advance_cases htaken).slots with ⟨hnone, -⟩ | ⟨_, _, _, hsome, -⟩
          · rw [hnone] at mem
            cases mem
          · rw [hsome, Option.toList_some] at mem
            rw [List.mem_singleton.mp mem] at home
            exact absurd home hi
  | @write i old msg queue pc hfound joining head kept =>
      refine ⟨hpresent, ?_, h.tasks⟩
      by_cases hi : i = s
      · subst hi
        obtain rfl := Option.some.inj (found.symm.trans hfound)
        rcases kept with rfl | rfl
        · refine ⟨_, hself, hsession.principal, hsession.pc, ?_⟩
          intro msg' mem
          apply hsession.queue
          rw [head]
          exact List.mem_cons_of_mem _ mem
        · have hjoining := (hstays rfl).1
          cases hjoining
      · exact hother hi
  | @fail i old hfound | @joined i old hfound | @release i old hfound =>
      refine ⟨hpresent, ?_, h.tasks⟩
      by_cases hi : i = s
      · subst hi
        have hjoining := (hstays rfl).1
        cases hjoining
      · exact hother hi
  | @task index task old reached io pc hfound home htaken reach =>
      by_cases hi : task.session = s
      · have hserves := h.tasks task (List.mem_of_getElem? hfound) hi
        obtain rfl : session = old := by
          rw [hi] at home
          exact Option.some.inj (found.symm.trans home)
        refine ⟨hpresent, ⟨reached, ?_, hserves.reach hsession reach⟩, ?_⟩
        · show (w.sessions.set task.session reached)[s]? = some reached
          rw [hi]
          exact hself
        · intro task' mem home'
          rcases List.mem_or_eq_of_mem_set mem with mem | rfl
          · exact h.tasks task' mem home'
          · exact hserves.advance hentitled hformed hset hasked htaken
      · refine ⟨hpresent, hother hi, ?_⟩
        intro task' mem home'
        rcases List.mem_or_eq_of_mem_set mem with mem | rfl
        · exact h.tasks task' mem home'
        · exact absurd home' hi

end

end FarBus.Core
