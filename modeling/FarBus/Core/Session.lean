/-
  Core/Session.lean --- the server of `crates/farbus-core/src/session.rs`: any number
  of `serve_session` instances over one shared `ServerState`.

  The parties interleave.  One step of the machine is one section between two
  points where the code can be suspended: a message read, a section under one of
  the locks of `ServerState`, a message put on the outgoing queue, a load of a
  presence token.  The one place that holds two locks, the inventory and the lease
  book of `AttachRequest` and of `refresh_host_devices`, is one step.  The clock,
  the random draws and what the backends return are part of the step's label.

  A session's `pc` is where its reader future stands, with the locals that are
  still needed; after the reader is gone it is the tail of `serve_session`.  A
  `Task` is a spawned `complete_session_urb`.  `try_join!` drops the reader at any
  of its suspension points when the writer fails (`Action.fail`).
-/
import FarBus.Foundation.Transition
import FarBus.Protocol.Encode
import FarBus.Core.Identity
import FarBus.Core.Urb

set_option autoImplicit false

namespace FarBus.Core

open FarBus.Foundation
open FarBus.Protocol

def MAX_IN_FLIGHT_URBS : Nat := 64

/-- The capacity of the outgoing queue, `mpsc::channel::<Message>(128)`. -/
def OUT_QUEUE : Nat := 128

/-- `Duration::from_secs(24 * 60 * 60)`. -/
def TOKEN_TTL : Duration := fromSecs (24 * 60 * 60)

/-- What the server gets from elsewhere: SHA-256 and the derived `Debug` text of a
message. -/
structure Platform where
  sha256 : Digest
  debug : Message → String

/-- A custom completer, by the completions its future may resolve to. -/
abbrev UrbCompleter : Type := UrbSubmit → UrbComplete → Bool

/-! ## The shared state -/

/-- The keys of the token table. -/
instance : Std.TransOrd Bytes32 := inferInstanceAs (Std.TransOrd (Vector UInt8 32))

structure ServerState where
  hostname : String
  fingerprint : PeerFingerprint
  pin : PairingPin
  leases : LeaseBook := {}
  tokens : Std.ExtTreeMap Bytes32 (PeerFingerprint × Instant) := {}
  devices : DeviceInventory
  urbCompleter : Option UrbCompleter := none

namespace ServerState

def new (platform : Platform) (hostname : String) (fingerprint : PeerFingerprint)
    (devices : List LocalDevice) (now : Instant) (draw : PinDraw) : ServerState :=
  { hostname
    fingerprint
    pin := PairingPin.issue platform.sha256 fingerprint now draw
    devices := DeviceInventory.new devices }

def withUrbCompleter (self : ServerState) (completer : UrbCompleter) : ServerState :=
  { self with urbCompleter := some completer }

def renewExpiredPin (platform : Platform) (self : ServerState) (now : Instant) (draw : PinDraw) :
    ServerState :=
  { self with
    pin := (self.pin.reissueIfExpired platform.sha256 self.fingerprint now draw).2 }

def validatePairingPin (platform : Platform) (self : ServerState) (candidateHash : Bytes32)
    (now : Instant) (draw : PinDraw) : Bool × ServerState :=
  match self.pin.reissueIfExpired platform.sha256 self.fingerprint now draw with
  | (some _, pin) => (false, { self with pin })
  | (none, pin) =>
      match pin.isValid candidateHash now with
      | (true, _) =>
          (true, { self with pin := PairingPin.issue platform.sha256 self.fingerprint now draw })
      | (false, pin) => (false, { self with pin })

def deviceList (self : ServerState) : DeviceList :=
  { devices := (self.devices.snapshot.filter fun device => device.info.exported).map
      fun device => device.info }

def devicesSnapshot (self : ServerState) : List LocalDevice := self.devices.snapshot

/-- One step: the inventory stays locked while the leases of removed devices go. -/
def refreshHostDevices (self : ServerState) (scanned : List LocalDevice) :
    InventoryDelta × ServerState :=
  let refreshed := self.devices.refreshHosts scanned
  (refreshed.1,
    { self with
      devices := refreshed.2
      leases :=
        if refreshed.1.removed ≠ [] then self.leases.releaseDevices refreshed.1.removed
        else self.leases })

end ServerState

/-! ## A session -/

/-- The requests that carry an authentication token. -/
inductive TokenRequest where
  | devices (req : DeviceListRequest)
  | attach (req : AttachRequest)
  | detach (req : DetachRequest)
  deriving DecidableEq, Repr

namespace TokenRequest

def authToken : TokenRequest → Bytes32
  | .devices req => req.authToken
  | .attach req => req.authToken
  | .detach req => req.authToken

def message : TokenRequest → Message
  | .devices req => .deviceListRequest req
  | .attach req => .attachRequest req
  | .detach req => .detachRequest req

end TokenRequest

/-- Where a session stands: the suspension points of its reader, then what follows
`try_join!`. -/
inductive Pc where
  /-- in `read_message` -/
  | reading
  /-- in `out_tx.send(msg)` -/
  | replying (msg : Message)
  /-- in `validate_pairing_pin` -/
  | pairing (req : PairRequest)
  /-- about to lock the token table and insert a token -/
  | issuing (req : PairRequest)
  /-- about to set the principal, with the token inserted -/
  | paired (req : PairRequest) (token : Bytes32)
  /-- about to lock the token table and look the request's token up -/
  | authorizing (req : TokenRequest)
  /-- about to set the principal -/
  | authorized (req : TokenRequest) (owner : PeerFingerprint)
  /-- about to lock the inventory for `device_list` -/
  | listing
  /-- about to lock the inventory and the lease book -/
  | attaching (device : DeviceId) (owner : PeerFingerprint)
  /-- about to lock the lease book -/
  | detaching (device : DeviceId) (owner : PeerFingerprint)
  /-- about to look for an active token of the principal -/
  | urbTokens (urb : UrbSubmit) (owner : PeerFingerprint)
  /-- about to look the lease up -/
  | urbLease (urb : UrbSubmit) (owner : PeerFingerprint) (active : Bool)
  /-- about to take the presence token -/
  | urbPresence (urb : UrbSubmit) (owner : PeerFingerprint)
  /-- waiting for one of the slots -/
  | urbSlot (urb : UrbSubmit) (owner : PeerFingerprint) (presence : PresenceToken)
  /-- about to look the lease up -/
  | unlinkLease (unlink : UrbUnlink) (owner : PeerFingerprint)
  /-- the reader has returned, the writer has not -/
  | draining
  /-- `try_join!` has returned -/
  | closing
  /-- `serve_session` has returned -/
  | ended

structure Session where
  /-- the reader's local `peer` -/
  peer : Option PeerFingerprint := none
  principal : Option PeerFingerprint := none
  pc : Pc := .reading
  queue : List Message := []
  slots : Nat := MAX_IN_FLIGHT_URBS

/-- What the random number generator returns in a step. -/
structure Draw where
  pin : PinDraw
  token : Bytes32

def sendError (code : ErrorCode) (detail : String) : Pc := .replying (.error code detail)

/-- The completion of a URB that is not let through. -/
def refusedUrb (urb : UrbSubmit) (status : Int32) : Pc :=
  .replying (.urbComplete { seq := urb.seq, status, data := [] })

def pairResponse (server : ServerState) (success : Bool) (authToken : Bytes32) : Pc :=
  .replying (.pairResponse { success, serverFingerprint := server.fingerprint, authToken })

def unlinkResponse (unlink : UrbUnlink) (status : Int32) : Pc :=
  .replying (.urbUnlinked { seq := unlink.seq, status })

/-- The all-zero token of a failed pairing. -/
def zeroToken : Bytes32 := Vector.replicate 32 0

namespace Session

/-- The `match msg` of the reader loop, up to its first suspension point.  The
principal is locked by this session only. -/
def dispatch (platform : Platform) (server : ServerState) (self : Session) (msg : Message) :
    Session :=
  match msg with
  | .hello hello =>
      { self with
        peer := some hello.fingerprint
        pc := .replying (.hello
          { protocolMin := VERSION
            protocolMax := VERSION
            fingerprint := server.fingerprint
            hostname := server.hostname }) }
  | .pairRequest req =>
      if self.peer = some req.clientFingerprint then { self with pc := .pairing req }
      else { self with pc := pairResponse server false zeroToken }
  | .deviceListRequest req => { self with pc := .authorizing (.devices req) }
  | .deviceList _ => { self with pc := sendError .unauthorized "pairing required" }
  | .attachRequest req => { self with pc := .authorizing (.attach req) }
  | .detachRequest req => { self with pc := .authorizing (.detach req) }
  | .detach _ => { self with pc := sendError .unauthorized "token required" }
  | .urbSubmit urb =>
      match self.principal with
      | none => { self with pc := refusedUrb urb (-13) }
      | some owner => { self with pc := .urbTokens urb owner }
  | .urbUnlink unlink =>
      match self.principal with
      | none => { self with pc := unlinkResponse unlink (-13) }
      | some owner => { self with pc := .unlinkLease unlink owner }
  | other => { self with pc := sendError .unsupported ("unsupported " ++ platform.debug other) }

end Session

/-! ## A URB task -/

/-- Where a spawned `complete_session_urb` stands. -/
inductive TaskPc where
  /-- about to load the presence token -/
  | start
  /-- about to call the custom completer -/
  | callCustom
  /-- awaiting its future -/
  | inCustom
  /-- about to take `devices_snapshot` -/
  | snapshot
  /-- on the blocking pool, about to load the presence token -/
  | blocking (devices : List LocalDevice)
  /-- about to call `complete_host_or_emulated` -/
  | callHost (devices : List LocalDevice)
  | inHost (devices : List LocalDevice)
  /-- about to call `complete_urb` -/
  | callEmulated
  /-- about to load the presence token for the last time -/
  | recheck (result : UrbComplete)
  /-- about to drop the permit -/
  | release (result : UrbComplete)
  /-- in `tx.send` -/
  | sending (result : UrbComplete)
  | finished
  deriving DecidableEq, Repr

structure Task where
  session : Nat
  urb : UrbSubmit
  presence : PresenceToken
  /-- the principal the URB was admitted for; the code does not keep it -/
  owner : PeerFingerprint
  pc : TaskPc := .start
  deriving DecidableEq, Repr

/-- What the backends answer in a step of a task. -/
structure TaskIo where
  custom : UrbComplete
  libusb : Libusb
  /-- the blocking call panicked -/
  panicked : Bool

namespace Task

/-- `complete_session_urb`, one step of it. -/
def advance (server : ServerState) (self : Task) (io : TaskIo) : Option TaskPc :=
  match self.pc with
  | .start =>
      if server.devices.load self.presence then
        match server.urbCompleter with
        | some _ => some .callCustom
        | none => some .snapshot
      else some (.release (failedUrb self.urb.seq))
  | .callCustom => some .inCustom
  | .inCustom =>
      match server.urbCompleter with
      | some custom => if custom self.urb io.custom then some (.recheck io.custom) else none
      | none => none
  | .snapshot =>
      let devices := server.devicesSnapshot
      let backend : Option DeviceBackend :=
        (devices.find? fun device => device.info.id = self.urb.deviceId).map
          fun device => device.backend
      match backend with
      | some .host => some (.blocking devices)
      | some .emulated => some .callEmulated
      | none => some (.release (failedUrb self.urb.seq))
  | .blocking devices =>
      if server.devices.load self.presence then some (.callHost devices)
      else some (.recheck (failedUrb self.urb.seq))
  | .callHost devices => some (.inHost devices)
  | .inHost devices =>
      some (.recheck (if io.panicked then failedUrb self.urb.seq
        else completeHostOrEmulated io.libusb self.urb devices))
  | .callEmulated => some (.release (completeUrb self.urb))
  | .recheck result =>
      some (.release (if server.devices.load self.presence then result
        else failedUrb self.urb.seq))
  | .release result => some (.sending result)
  | .sending _ => some .finished
  | .finished => none

/-- What the task's step does to its session: `drop(permit)` and `tx.send`.  A send
to a session that has ended fails, and the task ignores it. -/
def reach (self : Task) (session : Session) : Option Session :=
  match self.pc with
  | .release _ => some { session with slots := session.slots + 1 }
  | .sending result =>
      match session.pc with
      | .ended => some session
      | _ =>
          if session.queue.length < OUT_QUEUE then
            some { session with queue := session.queue ++ [.urbComplete result] }
          else none
  | _ => some session

/-- The task is about to hand its URB to a backend. -/
def HandsOver (self : Task) : Prop :=
  match self.pc with
  | .callCustom | .callHost _ | .callEmulated => True
  | _ => False

end Task

/-! ## The reader's sections -/

/-- What one section of the reader leaves behind. -/
structure Outcome where
  server : ServerState
  session : Session
  spawned : Option Task := none

namespace Session

/-- The section of the reader that `pc` is about to enter.  `none` where the reader
has to wait: for a message, for room in the queue, for a slot. -/
def advance (platform : Platform) (now : Instant) (draw : Draw) (server : ServerState)
    (index : Nat) (self : Session) : Option Outcome :=
  match self.pc with
  | .replying msg =>
      if self.queue.length < OUT_QUEUE then
        some ⟨server, { self with queue := self.queue ++ [msg], pc := .reading }, none⟩
      else none
  | .pairing req =>
      match server.validatePairingPin platform req.pinHash now draw.pin with
      | (true, server) => some ⟨server, { self with pc := .issuing req }, none⟩
      | (false, server) =>
          some ⟨server, { self with pc := pairResponse server false zeroToken }, none⟩
  | .issuing req =>
      some ⟨{ server with
          tokens := server.tokens.insert draw.token (req.clientFingerprint, now + TOKEN_TTL) },
        { self with pc := .paired req draw.token }, none⟩
  | .paired req token =>
      some ⟨server, { self with
          principal := some req.clientFingerprint
          pc := pairResponse server true token }, none⟩
  | .authorizing req =>
      match server.tokens[req.authToken]? with
      | none => some ⟨server, { self with pc := sendError .unauthorized "invalid token" }, none⟩
      | some (owner, expires) =>
          if self.peer ≠ some owner ∨ now > expires then
            some ⟨server, { self with pc := sendError .unauthorized "expired token" }, none⟩
          else some ⟨server, { self with pc := .authorized req owner }, none⟩
  | .authorized req owner =>
      some ⟨server, { self with
          principal := some owner
          pc := match req with
            | .devices _ => .listing
            | .attach req => .attaching req.deviceId owner
            | .detach req => .detaching req.deviceId owner }, none⟩
  | .listing => some ⟨server, { self with pc := .replying (.deviceList server.deviceList) }, none⟩
  | .attaching device owner =>
      match (server.devices.get device).filter fun found => found.info.exported with
      | none => some ⟨server, { self with pc := sendError .notFound "unknown device" }, none⟩
      | some found =>
          let acquired := server.leases.acquire device owner
          some ⟨{ server with leases := acquired.2 }, { self with
              pc := .replying (.attachResponse
                { deviceId := device
                  success := acquired.1.isOk
                  usbipPort := 3240
                  busId := found.info.busId }) }, none⟩
  | .detaching device owner =>
      some ⟨{ server with leases := (server.leases.release device owner).2 },
        { self with pc := .replying (.detach device) }, none⟩
  | .urbTokens urb owner =>
      let active := server.tokens.toList.any fun entry =>
        entry.2.1 = owner && now ≤ entry.2.2
      some ⟨server, { self with pc := .urbLease urb owner active }, none⟩
  | .urbLease urb owner active =>
      if active = true ∧ server.leases.owner urb.deviceId = some owner then
        some ⟨server, { self with pc := .urbPresence urb owner }, none⟩
      else some ⟨server, { self with pc := refusedUrb urb (-13) }, none⟩
  | .urbPresence urb owner =>
      match server.devices.presenceToken urb.deviceId with
      | none => some ⟨server, { self with pc := refusedUrb urb (-1) }, none⟩
      | some presence => some ⟨server, { self with pc := .urbSlot urb owner presence }, none⟩
  | .urbSlot urb owner presence =>
      -- the semaphore is never closed, so `acquire_owned` cannot fail
      if 0 < self.slots then
        some ⟨server, { self with slots := self.slots - 1, pc := .reading },
          some { session := index, urb, presence, owner }⟩
      else none
  | .unlinkLease unlink owner =>
      let leased := server.leases.owner unlink.deviceId = some owner
      some ⟨server, { self with pc := unlinkResponse unlink (if leased then 0 else -13) }, none⟩
  | .reading | .draining | .closing | .ended => none

/-- Both futures of `try_join!`, or the writer alone, are still running. -/
def joining (self : Session) : Bool :=
  match self.pc with
  | .closing | .ended => false
  | _ => true

end Session

/-! ## The server as a transition system -/

structure World where
  now : Instant
  server : ServerState
  sessions : List Session := []
  tasks : List Task := []

inductive Action where
  | tick (elapsed : Duration)
  | refreshHostDevices (scanned : List LocalDevice)
  | renewExpiredPin (draw : PinDraw)
  /-- a connection is accepted: `serve_session` starts -/
  | accept
  /-- `read_message` returns a message -/
  | recv (session : Nat) (msg : Message)
  /-- `read_message` reports the end of the stream -/
  | eof (session : Nat)
  /-- the reader's next section -/
  | advance (session : Nat) (draw : Draw)
  /-- the writer takes a message from the queue and writes it -/
  | write (session : Nat)
  /-- the reader or the writer fails, and `try_join!` returns -/
  | fail (session : Nat)
  /-- all senders are gone and the queue is empty: the writer returns -/
  | joined (session : Nat)
  /-- `release_all` at the end of `serve_session` -/
  | release (session : Nat)
  /-- the next step of a spawned task -/
  | task (task : Nat) (io : TaskIo)

namespace World

def initial (server : ServerState) (now : Instant) : World := { now, server }

def setSession (self : World) (index : Nat) (session : Session) : World :=
  { self with sessions := self.sessions.set index session }

/-- No task of the session still holds a sender. -/
def quiescent (self : World) (index : Nat) : Bool :=
  self.tasks.all fun task =>
    task.session != index || match task.pc with
      | .finished => true
      | _ => false

def stepTask (self : World) (index : Nat) (io : TaskIo) : Option World := do
  let task ← self.tasks[index]?
  let session ← self.sessions[task.session]?
  let pc ← task.advance self.server io
  let session ← task.reach session
  some { (self.setSession task.session session) with
    tasks := self.tasks.set index { task with pc } }

def step (platform : Platform) (self : World) : Action → Option World
  | .tick elapsed => some { self with now := self.now + elapsed }
  | .refreshHostDevices scanned =>
      some { self with server := (self.server.refreshHostDevices scanned).2 }
  | .renewExpiredPin draw =>
      some { self with server := self.server.renewExpiredPin platform self.now draw }
  | .accept => some { self with sessions := self.sessions ++ [{}] }
  | .recv index msg => do
      let session ← self.sessions[index]?
      match session.pc with
      | .reading => some (self.setSession index (session.dispatch platform self.server msg))
      | _ => none
  | .eof index => do
      let session ← self.sessions[index]?
      match session.pc with
      | .reading => some (self.setSession index { session with pc := .draining })
      | _ => none
  | .advance index draw => do
      let session ← self.sessions[index]?
      let outcome ← session.advance platform self.now draw self.server index
      some { (self.setSession index outcome.session) with
        server := outcome.server
        tasks := self.tasks ++ outcome.spawned.toList }
  | .write index => do
      let session ← self.sessions[index]?
      if session.joining then
        match session.queue with
        | [] => none
        | msg :: queue =>
            match encode msg with
            | .ok _ => some (self.setSession index { session with queue })
            | .error _ => some (self.setSession index { session with queue, pc := .closing })
      else none
  | .fail index => do
      let session ← self.sessions[index]?
      if session.joining then some (self.setSession index { session with pc := .closing })
      else none
  | .joined index => do
      let session ← self.sessions[index]?
      match session.pc with
      | .draining =>
          if session.queue = [] ∧ self.quiescent index = true then
            some (self.setSession index { session with pc := .closing })
          else none
      | _ => none
  | .release index => do
      let session ← self.sessions[index]?
      match session.pc with
      | .closing =>
          let leases := match session.principal with
            | some owner => self.server.leases.releaseAll owner
            | none => self.server.leases
          some { (self.setSession index { session with pc := .ended }) with
            server := { self.server with leases } }
      | _ => none
  | .task index io => self.stepTask index io

/-- A server that has just been set up, with or without a custom completer. -/
inductive Starting (platform : Platform) : World → Prop where
  | new (hostname : String) (fingerprint : PeerFingerprint) (devices : List LocalDevice)
      (now : Instant) (draw : PinDraw) :
      Starting platform (initial (.new platform hostname fingerprint devices now draw) now)
  | withUrbCompleter (hostname : String) (fingerprint : PeerFingerprint)
      (devices : List LocalDevice) (now : Instant) (draw : PinDraw) (completer : UrbCompleter) :
      Starting platform (initial
        ((ServerState.new platform hostname fingerprint devices now draw).withUrbCompleter completer)
        now)

/-- The runs of a server, from its set-up on. -/
abbrev Runs (platform : Platform) (start : World) (history : History World Action) (w : World) :
    Prop :=
  Run (step platform) start history w

end World

end FarBus.Core
