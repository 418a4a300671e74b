/-
  Core/Forwarder.lean --- `forward_urbs` of `crates/farbus-core/src/usbip_forward.rs` with
  all that is behind it: the loop on its USB/IP connection, the calls of its tasks on the
  shared client, the client's pump, the link, and the session at its other end.

  The loop is that of `UsbipConn`; what the call of a task returns, which is free there,
  is here what its receiver was told.  A submit clones the client and waits on the clone;
  an unlink keeps the client locked until it is answered.  The connection is the only
  user of the client.

  What a call does after its connection has failed is in `Core/Recovery.lean`: here it
  stays in `recovering`.
-/
import FarBus.Core.Linked
import FarBus.Core.Recovery
import FarBus.Core.UsbipReplies

set_option autoImplicit false

namespace FarBus.Core

open FarBus.Foundation
open FarBus.Protocol

/-- Where the call of a task stands. -/
inductive ForwardPc where
  /-- about to lock the client -/
  | locking
  /-- in `send_cmd` -/
  | sending
  /-- waiting for the receiver of the call `id`, among the calls of its kind -/
  | waiting (id : Nat)
  /-- in `reconnect_and_reattach` -/
  | recovering
  | returned
  deriving DecidableEq, Repr

structure ForwardWorld where
  conn : UsbipConn
  /-- the calls of the connection's tasks, in their order -/
  calls : List ForwardPc := []
  link : LinkedWorld
  /-- the unlink that holds the mutex of the client -/
  lock : Option Nat := none

inductive ForwardAction where
  /-- a step of the loop, of a task's `out_tx.send`, or of the writer -/
  | conn (act : UsbipAction)
  /-- the call of a task locks the client -/
  | lock (task : Nat)
  /-- its `tx.send` goes through -/
  | send (task : Nat)
  /-- its receiver resolves -/
  | result (task : Nat)
  /-- a step of the pump, of the link or of the server -/
  | link (act : LinkedAction)

/-- The end of `FarBusClient::unlink`. -/
def unlinkResult (answer : Except ClientError Int32) : Except ClientError Int32 := do
  let status ← answer
  if status = LEASE_DENIED then .error .attachRejected else .ok status

/-- What the call of a command sends. -/
def UsbipCommand.request (deviceId : DeviceId) : UsbipCommand → ClientAction
  | .submit cmd outPayload => .urb (usbipUrb deviceId cmd outPayload)
  | .unlink cmd => .unlink { seq := cmd.unlinkSeqnum, deviceId }

/-- The number that the call of a command gets. -/
def ClientWorld.nextCall (self : ClientWorld) : UsbipCommand → Nat
  | .submit _ _ => self.urbs.length
  | .unlink _ => self.unlinks.length

/-- What the call returns, once its receiver was told. -/
def ClientWorld.callResult (self : ClientWorld) (command : UsbipCommand) (id : Nat) :
    Option UsbipResult :=
  match command with
  | .submit _ _ => do
      let asked ← self.urbs[id]?
      let answer ← asked.answer
      some (.urb (urbWithLength answer))
  | .unlink _ => do
      let asked ← self.unlinks[id]?
      let answer ← asked.answer
      some (.unlink (unlinkResult answer))

/-- `urb_with_recovery` reconnects after the first `Closed`, `Frame` or `Io`. -/
def UsbipResult.recovers : UsbipResult → Bool
  | .urb (.error err) => err.recoverable
  | .urb (.ok _) | .unlink _ => false

/-- The steps that the connection's own calls do not take. -/
def LinkedAction.behind : LinkedAction → Bool
  | .client (.urb _) | .client (.unlink _) | .client (.control _) => false
  | _ => true

namespace ForwardWorld

def setCall (self : ForwardWorld) (task : Nat) (call : ForwardPc) : ForwardWorld :=
  { self with calls := self.calls.set task call }

def step (platform : Platform) (deviceId : DeviceId) (self : ForwardWorld) :
    ForwardAction → Option ForwardWorld
  | .conn (.complete _ _) => none
  | .conn act => do
      let conn ← self.conn.step (forwardUrbs deviceId) act
      -- a task that was spawned starts with its call
      let spawned := conn.tasks.drop self.conn.tasks.length
      some { self with conn, calls := self.calls ++ spawned.map fun _ => .locking }
  | .lock index => do
      let task ← self.conn.tasks[index]?
      match self.calls[index]?, self.lock with
      | some .locking, none =>
          some { self.setCall index .sending with
            lock := match task.command with
              | .submit _ _ => none
              | .unlink _ => some index }
      | _, _ => none
  | .send index => do
      let task ← self.conn.tasks[index]?
      match self.calls[index]? with
      | some .sending => do
          let link ← self.link.step platform (.client (task.command.request deviceId))
          some { self.setCall index (.waiting (self.link.client.nextCall task.command)) with link }
      | _ => none
  | .result index => do
      let task ← self.conn.tasks[index]?
      match self.calls[index]? with
      | some (.waiting id) => do
          let result ← self.link.client.callResult task.command id
          if result.recovers then some (self.setCall index .recovering)
          else do
            let conn ← self.conn.step (forwardUrbs deviceId) (.complete index result)
            some { self.setCall index .returned with
              conn
              lock := if self.lock = some index then none else self.lock }
      | _ => none
  | .link act =>
      if act.behind then (self.link.step platform act).map fun link => { self with link } else none

/-- The runs of a connection that has just been accepted. -/
abbrev Runs (platform : Platform) (deviceId : DeviceId) (input : Bytes) (link : LinkedWorld)
    (history : History ForwardWorld ForwardAction) (w : ForwardWorld) : Prop :=
  Run (step platform deviceId) { conn := { input }, link } history w

/-! ## The steps -/

/-- The steps, with their guards. -/
inductive StepCases (platform : Platform) (deviceId : DeviceId) (w : ForwardWorld) :
    ForwardAction → ForwardWorld → Prop where
  | conn {act : UsbipAction} {conn : UsbipConn}
      (other : ∀ index result, act ≠ .complete index result)
      (taken : w.conn.step (forwardUrbs deviceId) act = some conn) :
      StepCases platform deviceId w (.conn act)
        { w with
          conn
          calls := w.calls ++ (conn.tasks.drop w.conn.tasks.length).map fun _ => .locking }
  | locked {index : Nat} {task : UsbipTask} (found : w.conn.tasks[index]? = some task)
      (pc : w.calls[index]? = some .locking) (free : w.lock = none) :
      StepCases platform deviceId w (.lock index)
        { w.setCall index .sending with
          lock := match task.command with
            | .submit _ _ => none
            | .unlink _ => some index }
  | sent {index : Nat} {task : UsbipTask} {link : LinkedWorld}
      (found : w.conn.tasks[index]? = some task) (pc : w.calls[index]? = some .sending)
      (taken : w.link.step platform (.client (task.command.request deviceId)) = some link) :
      StepCases platform deviceId w (.send index)
        { w.setCall index (.waiting (w.link.client.nextCall task.command)) with link }
  | failed {index id : Nat} {task : UsbipTask} {result : UsbipResult}
      (found : w.conn.tasks[index]? = some task) (pc : w.calls[index]? = some (.waiting id))
      (told : w.link.client.callResult task.command id = some result)
      (recovers : result.recovers = true) :
      StepCases platform deviceId w (.result index) (w.setCall index .recovering)
  | returned {index id : Nat} {task : UsbipTask} {result : UsbipResult} {conn : UsbipConn}
      (found : w.conn.tasks[index]? = some task) (pc : w.calls[index]? = some (.waiting id))
      (told : w.link.client.callResult task.command id = some result)
      (ended : result.recovers = false)
      (taken : w.conn.step (forwardUrbs deviceId) (.complete index result) = some conn) :
      StepCases platform deviceId w (.result index)
        { w.setCall index .returned with
          conn
          lock := if w.lock = some index then none else w.lock }
  | link {act : LinkedAction} {link : LinkedWorld} (behind : act.behind = true)
      (taken : w.link.step platform act = some link) :
      StepCases platform deviceId w (.link act) { w with link }

theorem step_cases {platform : Platform} {deviceId : DeviceId} {w w' : ForwardWorld}
    {act : ForwardAction} (h : w.step platform deviceId act = some w') :
    StepCases platform deviceId w act w' := by
  cases act with
  | conn act =>
      cases act with
      | complete => cases h
      | read | reply | send | write | writeFails =>
          obtain ⟨conn, taken, h⟩ := Option.bind_eq_some_iff.mp h
          cases h
          exact .conn (fun _ _ => UsbipAction.noConfusion) taken
  | lock index =>
      obtain ⟨task, found, h⟩ := Option.bind_eq_some_iff.mp h
      split at h
      · rename_i pc free
        cases h
        exact .locked found pc free
      · cases h
  | send index =>
      obtain ⟨task, found, h⟩ := Option.bind_eq_some_iff.mp h
      split at h
      · rename_i pc
        obtain ⟨link, taken, h⟩ := Option.bind_eq_some_iff.mp h
        cases h
        exact .sent found pc taken
      · cases h
  | result index =>
      obtain ⟨task, found, h⟩ := Option.bind_eq_some_iff.mp h
      split at h
      · rename_i id pc
        obtain ⟨result, told, h⟩ := Option.bind_eq_some_iff.mp h
        split at h
        · rename_i recovers
          cases h
          exact .failed found pc told recovers
        · rename_i ended
          obtain ⟨conn, taken, h⟩ := Option.bind_eq_some_iff.mp h
          cases h
          exact .returned found pc told (Bool.eq_false_iff.mpr ended) taken
      · cases h
  | link act =>
      dsimp only [step] at h
      split at h
      · rename_i behind
        obtain ⟨link, taken, rfl⟩ := Option.map_eq_some_iff.mp h
        exact .link behind taken
      · cases h

end ForwardWorld

end FarBus.Core
