/-
  Core/SessionStep.lean --- what one step of the server can do.

  `step_cases` lists the steps with their guards.  From it follow, once and for all,
  what a step does to each component: the lease book changes by at most one
  `LeaseOp`, the inventory by a refresh, the token table by a pairing, a session's
  control fields by a message, a section or its end, and a task by its own step.
-/
import FarBus.Core.Session

set_option autoImplicit false

namespace FarBus.Core

open FarBus.Foundation
open FarBus.Protocol

/-! ## The sections of the reader -/

namespace Session

/-- The sections of the reader, with their guards. -/
inductive AdvanceCases (platform : Platform) (now : Instant) (draw : Draw) (server : ServerState)
    (index : Nat) (self : Session) : Outcome → Prop where
  | replied {msg : Message} (pc : self.pc = .replying msg)
      (room : self.queue.length < OUT_QUEUE) :
      AdvanceCases platform now draw server index self
        ⟨server, { self with queue := self.queue ++ [msg], pc := .reading }, none⟩
  | pinAccepted {req : PairRequest} {server' : ServerState} (pc : self.pc = .pairing req)
      (valid : server.validatePairingPin platform req.pinHash now draw.pin = (true, server')) :
      AdvanceCases platform now draw server index self
        ⟨server', { self with pc := .issuing req }, none⟩
  | pinRefused {req : PairRequest} {server' : ServerState} (pc : self.pc = .pairing req)
      (invalid : server.validatePairingPin platform req.pinHash now draw.pin = (false, server')) :
      AdvanceCases platform now draw server index self
        ⟨server', { self with pc := pairResponse server' false zeroToken }, none⟩
  | issued {req : PairRequest} (pc : self.pc = .issuing req) :
      AdvanceCases platform now draw server index self
        ⟨{ server with
            tokens := server.tokens.insert draw.token (req.clientFingerprint, now + TOKEN_TTL) },
          { self with pc := .paired req draw.token }, none⟩
  | paired {req : PairRequest} {token : Bytes32} (pc : self.pc = .paired req token) :
      AdvanceCases platform now draw server index self
        ⟨server, { self with
            principal := some req.clientFingerprint
            pc := pairResponse server true token }, none⟩
  | tokenUnknown {req : TokenRequest} (pc : self.pc = .authorizing req)
      (unknown : server.tokens[req.authToken]? = none) :
      AdvanceCases platform now draw server index self
        ⟨server, { self with pc := sendError .unauthorized "invalid token" }, none⟩
  | tokenRefused {req : TokenRequest} {owner : PeerFingerprint} {expires : Instant}
      (pc : self.pc = .authorizing req)
      (known : server.tokens[req.authToken]? = some (owner, expires))
      (refused : self.peer ≠ some owner ∨ now > expires) :
      AdvanceCases platform now draw server index self
        ⟨server, { self with pc := sendError .unauthorized "expired token" }, none⟩
  | tokenAccepted {req : TokenRequest} {owner : PeerFingerprint} {expires : Instant}
      (pc : self.pc = .authorizing req)
      (known : server.tokens[req.authToken]? = some (owner, expires))
      (peer : self.peer = some owner) (unexpired : now ≤ expires) :
      AdvanceCases platform now draw server index self
        ⟨server, { self with pc := .authorized req owner }, none⟩
  | authorizedDevices {req : DeviceListRequest} {owner : PeerFingerprint}
      (pc : self.pc = .authorized (.devices req) owner) :
      AdvanceCases platform now draw server index self
        ⟨server, { self with principal := some owner, pc := .listing }, none⟩
  | authorizedAttach {req : AttachRequest} {owner : PeerFingerprint}
      (pc : self.pc = .authorized (.attach req) owner) :
      AdvanceCases platform now draw server index self
        ⟨server, { self with principal := some owner, pc := .attaching req.deviceId owner }, none⟩
  | authorizedDetach {req : DetachRequest} {owner : PeerFingerprint}
      (pc : self.pc = .authorized (.detach req) owner) :
      AdvanceCases platform now draw server index self
        ⟨server, { self with principal := some owner, pc := .detaching req.deviceId owner }, none⟩
  | listed (pc : self.pc = .listing) :
      AdvanceCases platform now draw server index self
        ⟨server, { self with pc := .replying (.deviceList server.deviceList) }, none⟩
  | attachUnknown {device : DeviceId} {owner : PeerFingerprint}
      (pc : self.pc = .attaching device owner)
      (unknown : (server.devices.get device).filter (fun found => found.info.exported) = none) :
      AdvanceCases platform now draw server index self
        ⟨server, { self with pc := sendError .notFound "unknown device" }, none⟩
  | attached {device : DeviceId} {owner : PeerFingerprint} {found : LocalDevice}
      (pc : self.pc = .attaching device owner)
      (exported : (server.devices.get device).filter (fun found => found.info.exported)
        = some found) :
      AdvanceCases platform now draw server index self
        ⟨{ server with leases := (server.leases.acquire device owner).2 }, { self with
            pc := .replying (.attachResponse
              { deviceId := device
                success := (server.leases.acquire device owner).1.isOk
                usbipPort := 3240
                busId := found.info.busId }) }, none⟩
  | detached {device : DeviceId} {owner : PeerFingerprint} (pc : self.pc = .detaching device owner) :
      AdvanceCases platform now draw server index self
        ⟨{ server with leases := (server.leases.release device owner).2 },
          { self with pc := .replying (.detach device) }, none⟩
  | tokensExamined {urb : UrbSubmit} {owner : PeerFingerprint} (pc : self.pc = .urbTokens urb owner) :
      AdvanceCases platform now draw server index self
        ⟨server, { self with
            pc := .urbLease urb owner (server.tokens.toList.any fun entry =>
              entry.2.1 = owner && now ≤ entry.2.2) }, none⟩
  | urbLeased {urb : UrbSubmit} {owner : PeerFingerprint} (pc : self.pc = .urbLease urb owner true)
      (leased : server.leases.owner urb.deviceId = some owner) :
      AdvanceCases platform now draw server index self
        ⟨server, { self with pc := .urbPresence urb owner }, none⟩
  | urbRefused {urb : UrbSubmit} {owner : PeerFingerprint} {active : Bool}
      (pc : self.pc = .urbLease urb owner active)
      (refused : ¬ (active = true ∧ server.leases.owner urb.deviceId = some owner)) :
      AdvanceCases platform now draw server index self
        ⟨server, { self with pc := refusedUrb urb (-13) }, none⟩
  | urbAbsent {urb : UrbSubmit} {owner : PeerFingerprint} (pc : self.pc = .urbPresence urb owner)
      (absent : server.devices.presenceToken urb.deviceId = none) :
      AdvanceCases platform now draw server index self
        ⟨server, { self with pc := refusedUrb urb (-1) }, none⟩
  | urbPresent {urb : UrbSubmit} {owner : PeerFingerprint} {presence : PresenceToken}
      (pc : self.pc = .urbPresence urb owner)
      (present : server.devices.presenceToken urb.deviceId = some presence) :
      AdvanceCases platform now draw server index self
        ⟨server, { self with pc := .urbSlot urb owner presence }, none⟩
  | urbSpawned {urb : UrbSubmit} {owner : PeerFingerprint} {presence : PresenceToken}
      (pc : self.pc = .urbSlot urb owner presence) (free : 0 < self.slots) :
      AdvanceCases platform now draw server index self
        ⟨server, { self with slots := self.slots - 1, pc := .reading },
          some { session := index, urb, presence, owner }⟩
  | unlinked {unlink : UrbUnlink} {owner : PeerFingerprint}
      (pc : self.pc = .unlinkLease unlink owner) :
      AdvanceCases platform now draw server index self
        ⟨server, { self with
            pc := unlinkResponse unlink
              (if server.leases.owner unlink.deviceId = some owner then 0 else -13) }, none⟩

theorem advance_cases {platform : Platform} {now : Instant} {draw : Draw} {server : ServerState}
    {index : Nat} {self : Session} {outcome : Outcome}
    (h : self.advance platform now draw server index = some outcome) :
    AdvanceCases platform now draw server index self outcome := by
  unfold advance at h
  split at h
  · rename_i hpc
    split at h
    · rename_i hroom
      cases h
      exact .replied hpc hroom
    · cases h
  · rename_i hpc
    split at h
    · rename_i hvalid
      cases h
      exact .pinAccepted hpc hvalid
    · rename_i hinvalid
      cases h
      exact .pinRefused hpc hinvalid
  · rename_i hpc
    cases h
    exact .issued hpc
  · rename_i hpc
    cases h
    exact .paired hpc
  · rename_i hpc
    split at h
    · rename_i hunknown
      cases h
      exact .tokenUnknown hpc hunknown
    · rename_i hknown
      split at h
      · rename_i hrefused
        cases h
        exact .tokenRefused hpc hknown hrefused
      · rename_i haccepted
        cases h
        rw [not_or, not_not, not_lt] at haccepted
        exact .tokenAccepted hpc hknown haccepted.1 haccepted.2
  · rename_i req owner hpc
    cases h
    cases req with
    | devices req => exact .authorizedDevices hpc
    | attach req => exact .authorizedAttach hpc
    | detach req => exact .authorizedDetach hpc
  · rename_i hpc
    cases h
    exact .listed hpc
  · rename_i hpc
    split at h
    · rename_i hunknown
      cases h
      exact .attachUnknown hpc hunknown
    · rename_i hexported
      cases h
      exact .attached hpc hexported
  · rename_i hpc
    cases h
    exact .detached hpc
  · rename_i hpc
    cases h
    exact .tokensExamined hpc
  · rename_i hpc
    split at h
    · rename_i hleased
      cases h
      rw [hleased.1] at hpc
      exact .urbLeased hpc hleased.2
    · rename_i hrefused
      cases h
      exact .urbRefused hpc hrefused
  · rename_i hpc
    split at h
    · rename_i habsent
      cases h
      exact .urbAbsent hpc habsent
    · rename_i hpresent
      cases h
      exact .urbPresent hpc hpresent
  · rename_i hpc
    split at h
    · rename_i hfree
      cases h
      exact .urbSpawned hpc hfree
    · cases h
  · rename_i hpc
    cases h
    exact .unlinked hpc
  all_goals cases h

/-- The change of the lease book in the section `pc` is about to enter. -/
def leaseOp (server : ServerState) (self : Session) : Option LeaseOp :=
  match self.pc with
  | .attaching device owner =>
      match (server.devices.get device).filter fun found => found.info.exported with
      | some _ => some (.acquire device owner)
      | none => none
  | .detaching device owner => some (.release device owner)
  | _ => none

end Session

/-- At most one change of the lease book. -/
def LeaseBook.update (book : LeaseBook) : Option LeaseOp → LeaseBook
  | some op => op.apply book
  | none => book

/-- Validating a PIN changes the PIN at most. -/
theorem validatePairingPin_frame {platform : Platform} {server server' : ServerState}
    {candidateHash : Bytes32} {now : Instant} {draw : PinDraw} {success : Bool}
    (h : server.validatePairingPin platform candidateHash now draw = (success, server')) :
    ∃ pin, server' = { server with pin := pin } := by
  unfold ServerState.validatePairingPin at h
  split at h
  · cases h
    exact ⟨_, rfl⟩
  · split at h
    · cases h
      exact ⟨_, rfl⟩
    · cases h
      exact ⟨_, rfl⟩

namespace Session

variable {platform : Platform} {now : Instant} {draw : Draw} {server : ServerState} {index : Nat}
  {self : Session} {outcome : Outcome}

theorem AdvanceCases.leases (h : AdvanceCases platform now draw server index self outcome) :
    outcome.server.leases = server.leases.update (self.leaseOp server) := by
  unfold leaseOp
  cases h with
  | pinAccepted pc valid =>
      obtain ⟨pin, rfl⟩ := validatePairingPin_frame valid
      simp only [pc]
      rfl
  | pinRefused pc invalid =>
      obtain ⟨pin, rfl⟩ := validatePairingPin_frame invalid
      simp only [pc]
      rfl
  | attachUnknown pc unknown =>
      simp only [pc, unknown]
      rfl
  | attached pc exported =>
      simp only [pc, exported]
      rfl
  | replied pc | issued pc | paired pc | tokenUnknown pc | tokenRefused pc | tokenAccepted pc
  | authorizedDevices pc | authorizedAttach pc | authorizedDetach pc | listed pc | detached pc
  | tokensExamined pc | urbLeased pc | urbRefused pc | urbAbsent pc | urbPresent pc
  | urbSpawned pc | unlinked pc =>
      simp only [pc]
      rfl

theorem AdvanceCases.devices (h : AdvanceCases platform now draw server index self outcome) :
    outcome.server.devices = server.devices := by
  cases h with
  | pinAccepted _ valid =>
      obtain ⟨pin, rfl⟩ := validatePairingPin_frame valid
      rfl
  | pinRefused _ invalid =>
      obtain ⟨pin, rfl⟩ := validatePairingPin_frame invalid
      rfl
  | _ => rfl

theorem AdvanceCases.not_ended (h : AdvanceCases platform now draw server index self outcome) :
    self.pc ≠ .ended := by
  intro hended
  cases h <;> simp_all only [reduceCtorEq]

/-- Only a pairing inserts a token. -/
theorem AdvanceCases.tokens (h : AdvanceCases platform now draw server index self outcome) :
    outcome.server.tokens = server.tokens ∨
      ∃ req, self.pc = .issuing req ∧ outcome.server.tokens =
        server.tokens.insert draw.token (req.clientFingerprint, now + TOKEN_TTL) := by
  cases h with
  | pinAccepted _ valid =>
      obtain ⟨pin, rfl⟩ := validatePairingPin_frame valid
      exact .inl rfl
  | pinRefused _ invalid =>
      obtain ⟨pin, rfl⟩ := validatePairingPin_frame invalid
      exact .inl rfl
  | issued pc => exact .inr ⟨_, pc, rfl⟩
  | _ => exact .inl rfl

end Session

theorem Session.not_ended_of_joining {session : Session} (h : session.joining = true) :
    session.pc ≠ .ended := by
  intro hpc
  unfold Session.joining at h
  rw [hpc] at h
  cases h

theorem Task.reach_control {task : Task} {session reached : Session}
    (h : task.reach session = some reached) :
    reached.peer = session.peer ∧ reached.principal = session.principal ∧
      reached.pc = session.pc := by
  unfold Task.reach at h
  split at h
  · cases h
    exact ⟨rfl, rfl, rfl⟩
  · split at h
    · cases h
      exact ⟨rfl, rfl, rfl⟩
    · split at h
      · cases h
        exact ⟨rfl, rfl, rfl⟩
      · cases h
  · cases h
    exact ⟨rfl, rfl, rfl⟩

@[simp] theorem Session.dispatch_principal (session : Session) (platform : Platform)
    (server : ServerState) (msg : Message) :
    (session.dispatch platform server msg).principal = session.principal := by
  unfold Session.dispatch
  split <;> (try split) <;> rfl

theorem Session.dispatch_queue {platform : Platform} (session : Session) (server : ServerState)
    (msg : Message) : (session.dispatch platform server msg).queue = session.queue := by
  unfold Session.dispatch
  split <;> (try split) <;> rfl

/-- A task puts nothing on the queue but the completion it sends. -/
theorem Task.reach_queue_cases {task : Task} {session reached : Session}
    (h : task.reach session = some reached) :
    reached.queue = session.queue ∨ ∃ result, task.pc = .sending result ∧
      session.queue.length < OUT_QUEUE ∧ reached.queue = session.queue ++ [.urbComplete result] := by
  unfold Task.reach at h
  split at h
  · cases h
    exact .inl rfl
  · rename_i result hpc
    split at h
    · cases h
      exact .inl rfl
    · split at h
      · rename_i room
        cases h
        exact .inr ⟨result, hpc, room, rfl⟩
      · cases h
  · cases h
    exact .inl rfl

namespace World

variable {platform : Platform}

/-! ## The steps of the server -/

/-- The steps of the server, with their guards. -/
inductive StepCases (platform : Platform) (w : World) : Action → World → Prop where
  | tick (elapsed : Duration) :
      StepCases platform w (.tick elapsed) { w with now := w.now + elapsed }
  | refreshHostDevices (scanned : List LocalDevice) :
      StepCases platform w (.refreshHostDevices scanned)
        { w with server := (w.server.refreshHostDevices scanned).2 }
  | renewExpiredPin (draw : PinDraw) :
      StepCases platform w (.renewExpiredPin draw)
        { w with server := w.server.renewExpiredPin platform w.now draw }
  | accept : StepCases platform w .accept { w with sessions := w.sessions ++ [{}] }
  | recv {index : Nat} {session : Session} (msg : Message)
      (found : w.sessions[index]? = some session) (pc : session.pc = .reading) :
      StepCases platform w (.recv index msg)
        (w.setSession index (session.dispatch platform w.server msg))
  | eof {index : Nat} {session : Session} (found : w.sessions[index]? = some session)
      (pc : session.pc = .reading) :
      StepCases platform w (.eof index) (w.setSession index { session with pc := .draining })
  | advance {index : Nat} {session : Session} {draw : Draw} {outcome : Outcome}
      (found : w.sessions[index]? = some session)
      (taken : session.advance platform w.now draw w.server index = some outcome) :
      StepCases platform w (.advance index draw)
        { (w.setSession index outcome.session) with
          server := outcome.server
          tasks := w.tasks ++ outcome.spawned.toList }
  | write {index : Nat} {session : Session} {msg : Message} {queue : List Message} {pc : Pc}
      (found : w.sessions[index]? = some session) (joining : session.joining = true)
      (head : session.queue = msg :: queue) (kept : pc = session.pc ∨ pc = .closing) :
      StepCases platform w (.write index) (w.setSession index { session with queue, pc })
  | fail {index : Nat} {session : Session} (found : w.sessions[index]? = some session)
      (joining : session.joining = true) :
      StepCases platform w (.fail index) (w.setSession index { session with pc := .closing })
  | joined {index : Nat} {session : Session} (found : w.sessions[index]? = some session)
      (pc : session.pc = .draining) (empty : session.queue = [])
      (quiescent : w.quiescent index = true) :
      StepCases platform w (.joined index) (w.setSession index { session with pc := .closing })
  | release {index : Nat} {session : Session} (found : w.sessions[index]? = some session)
      (pc : session.pc = .closing) :
      StepCases platform w (.release index)
        { (w.setSession index { session with pc := .ended }) with
          server := { w.server with
            leases := match session.principal with
              | some owner => w.server.leases.releaseAll owner
              | none => w.server.leases } }
  | task {index : Nat} {task : Task} {session reached : Session} {io : TaskIo} {pc : TaskPc}
      (found : w.tasks[index]? = some task)
      (home : w.sessions[task.session]? = some session)
      (taken : task.advance w.server io = some pc) (reach : task.reach session = some reached) :
      StepCases platform w (.task index io)
        { (w.setSession task.session reached) with tasks := w.tasks.set index { task with pc } }

theorem step_cases {w w' : World} {act : Action} (h : w.step platform act = some w') :
    StepCases platform w act w' := by
  cases act with
  | tick elapsed =>
      cases h
      exact .tick elapsed
  | refreshHostDevices scanned =>
      cases h
      exact .refreshHostDevices scanned
  | renewExpiredPin draw =>
      cases h
      exact .renewExpiredPin draw
  | accept =>
      cases h
      exact .accept
  | recv index msg =>
      obtain ⟨session, found, h⟩ := Option.bind_eq_some_iff.mp h
      split at h
      · rename_i hpc
        cases h
        exact .recv msg found hpc
      · cases h
  | eof index =>
      obtain ⟨session, found, h⟩ := Option.bind_eq_some_iff.mp h
      split at h
      · rename_i hpc
        cases h
        exact .eof found hpc
      · cases h
  | advance index draw =>
      obtain ⟨session, found, h⟩ := Option.bind_eq_some_iff.mp h
      obtain ⟨outcome, taken, h⟩ := Option.bind_eq_some_iff.mp h
      cases h
      exact .advance found taken
  | write index =>
      obtain ⟨session, found, h⟩ := Option.bind_eq_some_iff.mp h
      split at h
      · rename_i hjoining
        split at h
        · cases h
        · rename_i msg queue hqueue
          split at h
          · cases h
            exact .write found hjoining hqueue (.inl rfl)
          · cases h
            exact .write found hjoining hqueue (.inr rfl)
      · cases h
  | fail index =>
      obtain ⟨session, found, h⟩ := Option.bind_eq_some_iff.mp h
      split at h
      · rename_i hjoining
        cases h
        exact .fail found hjoining
      · cases h
  | joined index =>
      obtain ⟨session, found, h⟩ := Option.bind_eq_some_iff.mp h
      split at h
      · rename_i hpc
        split at h
        · rename_i hdone
          cases h
          exact .joined found hpc hdone.1 hdone.2
        · cases h
      · cases h
  | release index =>
      obtain ⟨session, found, h⟩ := Option.bind_eq_some_iff.mp h
      split at h
      · rename_i hpc
        cases h
        exact .release found hpc
      · cases h
  | task index io =>
      obtain ⟨task, found, h⟩ := Option.bind_eq_some_iff.mp h
      obtain ⟨session, home, h⟩ := Option.bind_eq_some_iff.mp h
      obtain ⟨pc, taken, h⟩ := Option.bind_eq_some_iff.mp h
      obtain ⟨reached, reach, h⟩ := Option.bind_eq_some_iff.mp h
      cases h
      exact .task found home taken reach

/-! ## The components, one by one -/

/-- The change of the lease book that an action makes. -/
def leaseOp (w : World) : Action → Option LeaseOp
  | .refreshHostDevices scanned =>
      let removed := (w.server.devices.refreshHosts scanned).1.removed
      if removed ≠ [] then some (.releaseDevices removed) else none
  | .advance index _ => do
      let session ← w.sessions[index]?
      session.leaseOp w.server
  | .release index => do
      let session ← w.sessions[index]?
      session.principal.map .releaseAll
  | _ => none

/-- The four places that change the lease book. -/
inductive LeaseChange (w : World) : Action → LeaseOp → Prop where
  | removed (scanned : List LocalDevice) :
      LeaseChange w (.refreshHostDevices scanned)
        (.releaseDevices (w.server.devices.refreshHosts scanned).1.removed)
  | attached {s : Nat} {session : Session} {device : DeviceId} {owner : PeerFingerprint}
      {found : LocalDevice} (draw : Draw) (mem : w.sessions[s]? = some session)
      (pc : session.pc = .attaching device owner)
      (get : w.server.devices.get device = some found) (exported : found.info.exported = true) :
      LeaseChange w (.advance s draw) (.acquire device owner)
  | detached {s : Nat} {session : Session} {device : DeviceId} {owner : PeerFingerprint}
      (draw : Draw) (mem : w.sessions[s]? = some session)
      (pc : session.pc = .detaching device owner) :
      LeaseChange w (.advance s draw) (.release device owner)
  | ended {s : Nat} {session : Session} {owner : PeerFingerprint}
      (mem : w.sessions[s]? = some session) (principal : session.principal = some owner) :
      LeaseChange w (.release s) (.releaseAll owner)

theorem leaseOp_cases {w : World} {act : Action} {op : LeaseOp} (h : w.leaseOp act = some op) :
    LeaseChange w act op := by
  unfold leaseOp at h
  split at h
  · rename_i scanned
    dsimp only at h
    split at h
    · cases h
      exact .removed scanned
    · cases h
  · rename_i s draw
    obtain ⟨session, mem, hsession⟩ := Option.bind_eq_some_iff.mp h
    unfold Session.leaseOp at hsession
    split at hsession
    · rename_i device owner hpc
      split at hsession
      · rename_i exported
        cases hsession
        obtain ⟨hget, hexported⟩ := Option.filter_eq_some_iff.mp exported
        exact .attached draw mem hpc hget hexported
      · cases hsession
    · rename_i hpc
      cases hsession
      exact .detached draw mem hpc
    · cases hsession
  · rename_i s
    obtain ⟨session, mem, hsession⟩ := Option.bind_eq_some_iff.mp h
    obtain ⟨owner, principal, rfl⟩ := Option.map_eq_some_iff.mp hsession
    exact .ended mem principal
  · cases h

section

variable {w w' : World} {act : Action}

theorem step_leases (h : w.step platform act = some w') :
    w'.server.leases = w.server.leases.update (w.leaseOp act) := by
  cases step_cases h with
  | refreshHostDevices scanned =>
      simp only [ServerState.refreshHostDevices, leaseOp]
      split <;> rfl
  | advance found taken =>
      simp only [leaseOp, found]
      exact (Session.advance_cases taken).leases
  | @release index session found pc =>
      simp only [leaseOp, found, Option.bind_eq_bind, Option.bind_some]
      cases session.principal <;> rfl
  | tick | renewExpiredPin | accept | recv | eof | write | fail | joined | task => rfl

theorem step_devices (h : w.step platform act = some w') :
    w'.server.devices = w.server.devices ∨
      ∃ scanned, act = .refreshHostDevices scanned ∧
        w'.server.devices = (w.server.devices.refreshHosts scanned).2 := by
  cases step_cases h with
  | refreshHostDevices scanned => exact .inr ⟨scanned, rfl, rfl⟩
  | advance found taken => exact .inl (Session.advance_cases taken).devices
  | tick | renewExpiredPin | accept | recv | eof | write | fail | joined | release | task =>
      exact .inl rfl

theorem step_tokens (h : w.step platform act = some w') :
    w'.server.tokens = w.server.tokens ∨
      ∃ index draw session req, act = .advance index draw ∧ w.sessions[index]? = some session ∧
        session.pc = .issuing req ∧ w'.server.tokens =
          w.server.tokens.insert draw.token (req.clientFingerprint, w.now + TOKEN_TTL) := by
  cases step_cases h with
  | @advance index session draw outcome found taken =>
      rcases (Session.advance_cases taken).tokens with hsame | ⟨req, hpc, hinsert⟩
      · exact .inl hsame
      · exact .inr ⟨index, draw, session, req, rfl, found, hpc, hinsert⟩
  | tick | refreshHostDevices | renewExpiredPin | accept | recv | eof | write | fail | joined
  | release | task => exact .inl rfl

/-- Sessions are never dropped from the list. -/
theorem step_sessions_length_eq (h : w.step platform act = some w') (hact : act ≠ .accept) :
    w'.sessions.length = w.sessions.length := by
  cases step_cases h with
  | tick | refreshHostDevices | renewExpiredPin => rfl
  | accept => exact absurd rfl hact
  | recv | eof | advance | write | fail | joined | release | task =>
      simp only [setSession, List.length_set]

theorem step_sessions_length (h : w.step platform act = some w') :
    w.sessions.length ≤ w'.sessions.length := by
  cases step_cases h with
  | tick | refreshHostDevices | renewExpiredPin => exact Nat.le_refl _
  | accept =>
      rw [List.length_append]
      exact Nat.le_add_right _ _
  | recv | eof | advance | write | fail | joined | release | task =>
      simp only [setSession, List.length_set]
      exact Nat.le_refl _

/-- A session stays where it is in the list. -/
theorem step_session_stays (h : w.step platform act = some w') {index : Nat} {session : Session}
    (found : w.sessions[index]? = some session) : ∃ session', w'.sessions[index]? = some session' := by
  have hlt := Nat.lt_of_lt_of_le (List.getElem?_eq_some_iff.mp found).1 (step_sessions_length h)
  exact ⟨_, List.getElem?_eq_getElem hlt⟩

/-- A session of the next state is new, or was there. -/
theorem step_session_origin (h : w.step platform act = some w') {index : Nat} {session' : Session}
    (found' : w'.sessions[index]? = some session') :
    (act = .accept ∧ w.sessions[index]? = none ∧ session' = {}) ∨
      ∃ session, w.sessions[index]? = some session := by
  cases hfound : w.sessions[index]? with
  | some session => exact .inr ⟨session, rfl⟩
  | none =>
      have hge := List.getElem?_eq_none_iff.mp hfound
      have hlt := (List.getElem?_eq_some_iff.mp found').1
      by_cases hact : act = .accept
      · subst hact
        cases step_cases h with
        | accept =>
            simp only at found'
            rw [List.getElem?_append_right hge, List.getElem?_singleton] at found'
            split at found'
            · exact .inl ⟨rfl, rfl, (Option.some.inj found').symm⟩
            · cases found'
      · rw [step_sessions_length_eq h hact] at hlt
        exact absurd hge (Nat.not_le_of_lt hlt)

/-- What a step does to one session that exists. -/
inductive SessionCases (platform : Platform) (w : World) (index : Nat) (session : Session) :
    Action → Session → Prop where
  | untouched {act : Action} (quiet : ∀ msg, act ≠ .recv index msg) :
      SessionCases platform w index session act session
  | recv (msg : Message) (pc : session.pc = .reading) :
      SessionCases platform w index session (.recv index msg)
        (session.dispatch platform w.server msg)
  | eof (pc : session.pc = .reading) :
      SessionCases platform w index session (.eof index) { session with pc := .draining }
  | advance {draw : Draw} {outcome : Outcome}
      (entered : session.AdvanceCases platform w.now draw w.server index outcome) :
      SessionCases platform w index session (.advance index draw) outcome.session
  | write {msg : Message} {queue : List Message} {pc : Pc} (joining : session.joining = true)
      (head : session.queue = msg :: queue) (kept : pc = session.pc ∨ pc = .closing) :
      SessionCases platform w index session (.write index) { session with queue, pc }
  | fail (joining : session.joining = true) :
      SessionCases platform w index session (.fail index) { session with pc := .closing }
  | joined (pc : session.pc = .draining) (quiescent : w.quiescent index = true) :
      SessionCases platform w index session (.joined index) { session with pc := .closing }
  | release (pc : session.pc = .closing) :
      SessionCases platform w index session (.release index) { session with pc := .ended }
  | task {i : Nat} {io : TaskIo} {task : Task} {reached : Session}
      (found : w.tasks[i]? = some task) (home : task.session = index)
      (reach : task.reach session = some reached) :
      SessionCases platform w index session (.task i io) reached

theorem step_session_cases (h : w.step platform act = some w') {index : Nat}
    {session session' : Session} (found : w.sessions[index]? = some session)
    (found' : w'.sessions[index]? = some session') :
    SessionCases platform w index session act session' := by
  -- a session that is not the one of the step is untouched
  have huntouched : (∀ msg, act ≠ .recv index msg) → w.sessions[index]? = some session' →
      SessionCases platform w index session act session' := by
    intro quiet hsame
    rw [found, Option.some.injEq] at hsame
    rw [← hsame]
    exact .untouched quiet
  have hset : ∀ {i : Nat} {old new : Session}, w.sessions[i]? = some old →
      (w.sessions.set i new)[index]? = some session' → (i ≠ index → ∀ msg, act ≠ .recv index msg) →
      (i = index → session = old → session' = new →
        SessionCases platform w index session act session') →
      SessionCases platform w index session act session' := by
    intro i old new hold hnew quiet hmove
    rcases lookup_set_cases hold hnew with ⟨hi, hsame, hnew⟩ | ⟨hne, hsame⟩
    · exact hmove hi (Option.some.inj (found.symm.trans hsame)) hnew
    · exact huntouched (quiet hne) hsame
  cases step_cases h with
  | tick | refreshHostDevices | renewExpiredPin => exact huntouched (fun _ => nofun) found'
  | accept =>
      simp only at found'
      rw [List.getElem?_append_left (List.getElem?_eq_some_iff.mp found).1] at found'
      exact huntouched (fun _ => nofun) found'
  | recv msg hfound pc =>
      refine hset hfound found' (fun hne msg' heq => hne (Action.recv.inj heq).1) ?_
      rintro rfl rfl rfl
      exact .recv msg pc
  | eof hfound pc =>
      refine hset hfound found' (fun _ _ => nofun) ?_
      rintro rfl rfl rfl
      exact .eof pc
  | advance hfound taken =>
      refine hset hfound found' (fun _ _ => nofun) ?_
      rintro rfl rfl rfl
      exact .advance (Session.advance_cases taken)
  | write hfound joining head kept =>
      refine hset hfound found' (fun _ _ => nofun) ?_
      rintro rfl rfl rfl
      exact .write joining head kept
  | fail hfound joining =>
      refine hset hfound found' (fun _ _ => nofun) ?_
      rintro rfl rfl rfl
      exact .fail joining
  | joined hfound pc empty quiescent =>
      refine hset hfound found' (fun _ _ => nofun) ?_
      rintro rfl rfl rfl
      exact .joined pc quiescent
  | release hfound pc =>
      refine hset hfound found' (fun _ _ => nofun) ?_
      rintro rfl rfl rfl
      exact .release pc
  | task hfound home taken reach =>
      refine hset home found' (fun _ _ => nofun) ?_
      rintro hi rfl rfl
      exact .task hfound hi reach

/-- What a step can do to the control fields of a session that exists. -/
inductive SessionMove (platform : Platform) (w : World) (act : Action) (index : Nat)
    (session session' : Session) : Prop where
  | kept (quiet : ∀ msg, act ≠ .recv index msg) (peer : session'.peer = session.peer)
      (principal : session'.principal = session.principal) (pc : session'.pc = session.pc)
  | recv (msg : Message) (taken : act = .recv index msg) (pc : session.pc = .reading)
      (result : session' = session.dispatch platform w.server msg)
  | advance (draw : Draw) (outcome : Outcome) (taken : act = .advance index draw)
      (entered : session.AdvanceCases platform w.now draw w.server index outcome)
      (result : session' = outcome.session)
  | left (quiet : ∀ msg, act ≠ .recv index msg) (live : session.pc ≠ .ended)
      (peer : session'.peer = session.peer) (principal : session'.principal = session.principal)
      (pc : session'.pc = .draining ∨ session'.pc = .closing ∨ session'.pc = .ended)

/-- A session of the next state is new, or moved. -/
theorem step_session (h : w.step platform act = some w') {index : Nat} {session' : Session}
    (found' : w'.sessions[index]? = some session') :
    (act = .accept ∧ w.sessions[index]? = none ∧ session' = {}) ∨
      ∃ session, w.sessions[index]? = some session ∧
        SessionMove platform w act index session session' := by
  rcases step_session_origin h found' with hnew | ⟨session, found⟩
  · exact .inl hnew
  refine .inr ⟨session, found, ?_⟩
  cases step_session_cases h found found' with
  | untouched quiet => exact .kept quiet rfl rfl rfl
  | recv msg pc => exact .recv msg rfl pc rfl
  | eof pc => exact .left (fun _ => nofun) (by rw [pc]; nofun) rfl rfl (.inl rfl)
  | advance entered => exact .advance _ _ rfl entered rfl
  | write joining head kept =>
      rcases kept with rfl | rfl
      · exact .kept (fun _ => nofun) rfl rfl rfl
      · exact .left (fun _ => nofun) (Session.not_ended_of_joining joining) rfl rfl (.inr (.inl rfl))
  | fail joining =>
      exact .left (fun _ => nofun) (Session.not_ended_of_joining joining) rfl rfl (.inr (.inl rfl))
  | joined pc => exact .left (fun _ => nofun) (by rw [pc]; nofun) rfl rfl (.inr (.inl rfl))
  | release pc => exact .left (fun _ => nofun) (by rw [pc]; nofun) rfl rfl (.inr (.inr rfl))
  | task hfound home reach =>
      obtain ⟨hpeer, hprincipal, hpc⟩ := Task.reach_control reach
      exact .kept (fun _ => nofun) hpeer hprincipal hpc

theorem step_session_ended (h : w.step platform act = some w') {index : Nat}
    {session session' : Session} (found : w.sessions[index]? = some session)
    (ended : session.pc = .ended) (found' : w'.sessions[index]? = some session') :
    session'.principal = session.principal := by
  rcases step_session h found' with ⟨-, hnone, -⟩ | ⟨before, hbefore, hmove⟩
  · rw [found] at hnone
    cases hnone
  · rw [found, Option.some.injEq] at hbefore
    subst hbefore
    cases hmove with
    | kept quiet peer principal pc => exact principal
    | recv msg taken pc result =>
        rw [ended] at pc
        cases pc
    | advance draw outcome taken entered result => exact absurd ended entered.not_ended
    | left quiet live peer principal pc => exact absurd ended live

/-- A session ends by `release_all`. -/
theorem step_ends (h : w.step platform act = some w') {index : Nat} {session session' : Session}
    (found : w.sessions[index]? = some session) (live : session.pc ≠ .ended)
    (found' : w'.sessions[index]? = some session') (ended : session'.pc = .ended) :
    act = .release index ∧ session.pc = .closing ∧ session'.principal = session.principal := by
  cases step_session_cases h found found' with
  | untouched => exact absurd ended live
  | recv msg pc =>
      unfold Session.dispatch at ended
      split at ended <;> (try split at ended) <;> cases ended
  | eof | fail | joined => cases ended
  | advance entered => cases entered <;> cases ended
  | write joining head kept =>
      rcases kept with rfl | rfl
      · exact absurd ended live
      · cases ended
  | release pc => exact ⟨rfl, pc, rfl⟩
  | task hfound home reach =>
      rw [(Task.reach_control reach).2.2] at ended
      exact absurd ended live

/-- `try_join!` returns because something failed, or because all is sent. -/
theorem step_closes (h : w.step platform act = some w') {index : Nat} {session session' : Session}
    (found : w.sessions[index]? = some session) (live : session.pc ≠ .closing)
    (found' : w'.sessions[index]? = some session') (closing : session'.pc = .closing) :
    act = .fail index ∨ act = .write index ∨ act = .joined index ∧ w.quiescent index = true := by
  cases step_session_cases h found found' with
  | untouched => exact absurd closing live
  | recv msg pc =>
      unfold Session.dispatch at closing
      split at closing <;> (try split at closing) <;> cases closing
  | eof | release => cases closing
  | advance entered => cases entered <;> cases closing
  | write => exact .inr (.inl rfl)
  | fail => exact .inl rfl
  | joined pc quiescent => exact .inr (.inr ⟨rfl, quiescent⟩)
  | task hfound home reach =>
      rw [(Task.reach_control reach).2.2] at closing
      exact absurd closing live

/-- No step changes the custom completer. -/
theorem step_completer (h : w.step platform act = some w') :
    w'.server.urbCompleter = w.server.urbCompleter := by
  cases step_cases h with
  | advance found taken =>
      cases Session.advance_cases taken with
      | pinAccepted pc valid =>
          obtain ⟨pin, rfl⟩ := validatePairingPin_frame valid
          rfl
      | pinRefused pc invalid =>
          obtain ⟨pin, rfl⟩ := validatePairingPin_frame invalid
          rfl
      | _ => rfl
  | _ => rfl

/-- What a step can do to a task: take it one step further, or spawn it. -/
theorem step_task (h : w.step platform act = some w') {index : Nat} {task' : Task}
    (found' : w'.tasks[index]? = some task') :
    w.tasks[index]? = some task' ∨
    (∃ task io pc, act = .task index io ∧ w.tasks[index]? = some task ∧
      task.advance w.server io = some pc ∧ task' = { task with pc }) ∨
    (∃ s draw session urb owner presence, act = .advance s draw ∧
      w.sessions[s]? = some session ∧ session.pc = .urbSlot urb owner presence ∧
      task' = { session := s, urb, presence, owner }) := by
  cases step_cases h with
  | @advance s session draw outcome found taken =>
      simp only at found'
      cases Session.advance_cases taken with
      | urbSpawned pc free =>
          simp only [Option.toList_some] at found'
          rcases Nat.lt_or_ge index w.tasks.length with hlt | hge
          · rw [List.getElem?_append_left hlt] at found'
            exact .inl found'
          · rw [List.getElem?_append_right hge, List.getElem?_singleton] at found'
            split at found'
            · exact .inr (.inr ⟨s, draw, session, _, _, _, rfl, found, pc,
                (Option.some.inj found').symm⟩)
            · cases found'
      | _ =>
          simp only [Option.toList_none, List.append_nil] at found'
          exact .inl found'
  | @task i task session reached io pc found home taken reach =>
      rcases lookup_set_cases found found' with ⟨rfl, -, hmoved⟩ | ⟨-, hbefore⟩
      · exact .inr (.inl ⟨task, io, pc, rfl, found, taken, hmoved⟩)
      · exact .inl hbefore
  | tick | refreshHostDevices | renewExpiredPin | accept | recv | eof | write | fail | joined
  | release => exact .inl found'

/-- A task stays where it is in the list, and only its own steps take it further. -/
theorem step_task_next (h : w.step platform act = some w') {index : Nat} {task : Task}
    (found : w.tasks[index]? = some task) :
    ∃ pc, w'.tasks[index]? = some { task with pc } ∧
      ((∀ io, act ≠ .task index io) ∧ pc = task.pc ∨
        ∃ io, act = .task index io ∧ task.advance w.server io = some pc) := by
  cases step_cases h with
  | advance =>
      refine ⟨task.pc, ?_, .inl ⟨fun _ => Action.noConfusion, rfl⟩⟩
      rw [List.getElem?_append_left (List.getElem?_eq_some_iff.mp found).1]
      exact found
  | @task i task' session reached io pc found' home taken reach =>
      by_cases hi : i = index
      · subst hi
        rw [found, Option.some.injEq] at found'
        subst found'
        refine ⟨pc, ?_, .inr ⟨io, rfl, taken⟩⟩
        rw [lookup_set_self found]
      · refine ⟨task.pc, ?_, .inl ⟨?_, rfl⟩⟩
        · rw [List.getElem?_set_ne hi]
          exact found
        · intro io' heq
          exact hi (Action.task.inj heq).1
  | tick | refreshHostDevices | renewExpiredPin | accept | recv | eof | write | fail | joined
  | release => exact ⟨task.pc, found, .inl ⟨fun _ => Action.noConfusion, rfl⟩⟩

/-- What a step can do to the outgoing queue of a session that exists. -/
inductive QueueMove (w : World) (act : Action) (index : Nat) (session session' : Session) : Prop where
  | kept (queue : session'.queue = session.queue)
  | written (msg : Message) (taken : act = .write index)
      (head : session.queue = msg :: session'.queue)
  | replied (draw : Draw) (msg : Message) (taken : act = .advance index draw)
      (pc : session.pc = .replying msg) (room : session.queue.length < OUT_QUEUE)
      (queue : session'.queue = session.queue ++ [msg])
  | sent (i : Nat) (io : TaskIo) (task : Task) (result : UrbComplete) (taken : act = .task i io)
      (found : w.tasks[i]? = some task) (home : task.session = index)
      (pc : task.pc = .sending result) (room : session.queue.length < OUT_QUEUE)
      (queue : session'.queue = session.queue ++ [.urbComplete result])

theorem step_queue_cases (h : w.step platform act = some w') {index : Nat}
    {session session' : Session} (found : w.sessions[index]? = some session)
    (found' : w'.sessions[index]? = some session') :
    QueueMove w act index session session' := by
  cases step_session_cases h found found' with
  | untouched | eof | fail | joined | release => exact .kept rfl
  | recv msg pc => exact .kept (Session.dispatch_queue _ _ _)
  | @advance draw outcome entered =>
      cases entered with
      | replied pc room => exact .replied draw _ rfl pc room rfl
      | _ => exact .kept rfl
  | write joining head kept => exact .written _ rfl head
  | @task i io task reached hfound home reach =>
      rcases Task.reach_queue_cases reach with hqueue | ⟨result, hpc, room, hqueue⟩
      · exact .kept hqueue
      · exact .sent i io task result rfl hfound home hpc room hqueue

/-- A message joins the outgoing queue of a session from its reader, or is the
completion a task sends. -/
theorem step_queue (h : w.step platform act = some w') {index : Nat} {session session' : Session}
    {msg : Message} (found : w.sessions[index]? = some session)
    (found' : w'.sessions[index]? = some session')
    (grown : session'.queue = session.queue ++ [msg]) :
    (∃ draw, act = .advance index draw ∧ session.pc = .replying msg) ∨
      ∃ result, msg = .urbComplete result := by
  cases step_queue_cases h found found' with
  | kept hqueue =>
      rw [hqueue] at grown
      exact absurd (List.append_right_eq_self.mp grown.symm) (List.cons_ne_nil _ _)
  | written head hact hhead =>
      rw [hhead] at grown
      have hlength := congrArg List.length grown
      simp only [List.length_append, List.length_cons, List.length_nil] at hlength
      omega
  | replied draw reply taken pc room hqueue =>
      rw [hqueue] at grown
      rw [List.singleton_inj.mp (List.append_cancel_left grown)] at pc
      exact .inl ⟨draw, taken, pc⟩
  | sent i io task result taken hfound home pc room hqueue =>
      rw [hqueue] at grown
      exact .inr ⟨result, (List.singleton_inj.mp (List.append_cancel_left grown)).symm⟩

/-- A step that gives a device to a peer is an attach section for it. -/
theorem step_acquired (h : w.step platform act = some w') {device : DeviceId}
    {peer : PeerFingerprint} (hbefore : w.server.leases.owner device ≠ some peer)
    (hafter : w'.server.leases.owner device = some peer) :
    LeaseChange w act (.acquire device peer) ∧ w.server.leases.owner device = none := by
  rw [step_leases h] at hafter
  cases hop : w.leaseOp act with
  | none =>
      rw [hop] at hafter
      exact absurd hafter hbefore
  | some op =>
      rw [hop] at hafter
      obtain ⟨rfl, hnone⟩ := LeaseOp.acquired hbefore hafter
      exact ⟨leaseOp_cases hop, hnone⟩

/-- The steps that revoke a lease: the device is removed, a detach request of its owner
is processed, or a session whose principal is the owner ends. -/
inductive Revokes (w : World) (device : DeviceId) (peer : PeerFingerprint) : Action → Prop where
  | removed (scanned : List LocalDevice)
      (mem : device ∈ (w.server.devices.refreshHosts scanned).1.removed) :
      Revokes w device peer (.refreshHostDevices scanned)
  | detached {s : Nat} {session : Session} (draw : Draw) (mem : w.sessions[s]? = some session)
      (pc : session.pc = .detaching device peer) : Revokes w device peer (.advance s draw)
  | ended {s : Nat} {session : Session} (mem : w.sessions[s]? = some session)
      (principal : session.principal = some peer) : Revokes w device peer (.release s)

theorem revokes_iff (w : World) (act : Action) (device : DeviceId) (peer : PeerFingerprint) :
    w.Revokes device peer act ↔ ∃ op, w.leaseOp act = some op ∧ op.Revokes device peer := by
  constructor
  · intro h
    cases h with
    | removed scanned mem =>
        refine ⟨_, ?_, .inr (.inr ⟨_, rfl, mem⟩)⟩
        simp only [leaseOp]
        rw [if_pos (List.ne_nil_of_mem mem)]
    | detached draw mem pc =>
        refine ⟨_, ?_, .inl rfl⟩
        simp only [leaseOp, mem, Option.bind_eq_bind, Option.bind_some, Session.leaseOp, pc]
    | ended mem principal =>
        refine ⟨_, ?_, .inr (.inl rfl)⟩
        simp only [leaseOp, mem, Option.bind_eq_bind, Option.bind_some, principal,
          Option.map_some]
  · intro h
    obtain ⟨op, hop, hrevokes⟩ := h
    rcases hrevokes with rfl | rfl | ⟨devices, rfl, hmem⟩
    · cases leaseOp_cases hop with
      | detached draw mem pc => exact .detached draw mem pc
    · cases leaseOp_cases hop with
      | ended mem principal => exact .ended mem principal
    · cases leaseOp_cases hop with
      | removed scanned => exact .removed scanned hmem

/-- A lease is lost exactly to a step that revokes it. -/
theorem step_lost_iff (h : w.step platform act = some w') {device : DeviceId}
    {peer : PeerFingerprint} (hbefore : w.server.leases.owner device = some peer) :
    w'.server.leases.owner device ≠ some peer ↔ w.Revokes device peer act := by
  rw [revokes_iff, step_leases h]
  cases hop : w.leaseOp act with
  | none => simp [LeaseBook.update, hbefore]
  | some op => simpa [LeaseBook.update] using LeaseOp.lost_iff hbefore

/-- The session has not returned from `serve_session`. -/
def Alive (w : World) (index : Nat) : Prop :=
  ∀ session, w.sessions[index]? = some session → session.pc ≠ .ended

/-- A session that has not ended had not ended before, and was not ended by the step. -/
theorem Alive.before (h : w.step platform act = some w') {index : Nat} (alive : w'.Alive index) :
    w.Alive index ∧ act ≠ .release index := by
  refine ⟨?_, ?_⟩
  · intro session mem hended
    have hlt := Nat.lt_of_lt_of_le (List.getElem?_eq_some_iff.mp mem).1 (step_sessions_length h)
    have mem' := List.getElem?_eq_getElem hlt
    rcases step_session h mem' with ⟨-, hnone, -⟩ | ⟨session₁, mem₁, hmove⟩
    · rw [mem] at hnone
      cases hnone
    · rw [mem, Option.some.injEq] at mem₁
      subst mem₁
      cases hmove with
      | kept quiet peer principal pc =>
          rw [hended] at pc
          exact alive _ mem' pc
      | recv msg taken pc result =>
          rw [hended] at pc
          cases pc
      | advance draw outcome taken entered result => exact entered.not_ended hended
      | left quiet live peer principal pc => exact live hended
  · intro hact
    subst hact
    cases step_cases h with
    | release found pc =>
        exact alive _ (lookup_set_self found _) rfl

end

end World

end FarBus.Core
