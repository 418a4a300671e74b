/-
  Core/Recovery.lean --- `urb_with_recovery` of `crates/farbus-core/src/usbip_forward.rs`:
  any number of calls on one shared client, each of which reconnects and tries once more
  when its connection is gone.

  A reconnect spawns a pump of its own and puts it in the place of the one before, for
  all clones of the client: the old pump is aborted, and `cmd_tx` becomes the sender of
  the new one.  A call that has cloned a sender keeps it, so the pumps are numbered, and
  each has its channel, its tables and its link (a `ClientWorld`).  An aborted pump ends
  some time later.

  The mutex of the client is held by a call that reconnects, until it has attached the
  device or failed.  Connecting, `hello` and `attach` are known by what they return.
-/
import FarBus.Core.Client

set_option autoImplicit false

namespace FarBus.Core

open FarBus.Foundation
open FarBus.Protocol

/-- How often `reconnect_and_reattach` tries again after its first try, `0..8`. -/
def RECONNECT_RETRIES : Nat := 7

/-- The errors after which a URB is tried again. -/
def ClientError.recoverable : ClientError → Bool
  | .closed | .frame _ | .io _ => true
  | _ => false

/-- Where a call stands. -/
inductive RecoveryPc where
  /-- about to clone the client -/
  | cloning
  /-- in `send_cmd`, about to clone the sender -/
  | cloned
  /-- in `tx.send`, on the channel of `pump` -/
  | sending (pump : Nat)
  /-- waiting for the receiver of the call `id` on `pump` -/
  | waiting (pump id : Nat)
  /-- in `reconnect_and_reattach`, about to lock the client; `retries` are left -/
  | locking (retries : Nat)
  | connecting (retries : Nat)
  /-- about to put the new pump in the place of the old one, and abort that -/
  | replacing (retries pump : Nat)
  /-- about to make `cmd_tx` the sender of the new pump -/
  | storing (retries pump : Nat)
  /-- in `hello` -/
  | greeting (retries : Nat)
  /-- in `attach` -/
  | attaching (retries : Nat)
  /-- in `sleep` -/
  | backingOff (retries : Nat) (last : ClientError)
  | returned (result : Except ClientError UrbComplete)
  deriving DecidableEq

structure RecoveryCall where
  urb : UrbSubmit
  attempt : Nat := 0
  pc : RecoveryPc := .cloning
  deriving DecidableEq

structure RecoveryWorld where
  calls : List RecoveryCall := []
  /-- the pumps, with their links, in the order they were spawned -/
  pumps : List ClientWorld := [{}]
  /-- whose sender `cmd_tx` is -/
  cmdTx : Nat := 0
  /-- whose handle `pump_task` is -/
  pumpTask : Nat := 0
  /-- the pumps whose handles were aborted -/
  aborted : List Nat := []
  /-- the call that holds the mutex of the client -/
  lock : Option Nat := none

inductive RecoveryAction where
  /-- `urb_with_recovery` is called -/
  | call (urb : UrbSubmit)
  /-- `client.lock().await.clone()` -/
  | clone (index : Nat)
  /-- `self.inner.cmd_tx.lock().await.clone()` -/
  | sender (index : Nat)
  /-- `tx.send` goes through, or fails -/
  | send (index : Nat)
  /-- the receiver resolves, and `urb_with_length` returns -/
  | result (index : Nat)
  | lock (index : Nat)
  /-- the handshake is over; the pump is spawned if it succeeded -/
  | connect (index : Nat) (result : Except ClientError Unit)
  | replace (index : Nat)
  | store (index : Nat)
  | hello (index : Nat) (result : Except ClientError Unit)
  | attach (index : Nat) (result : Except ClientError Unit)
  | backoff (index : Nat)
  /-- a step of a pump, of its link or of the server at its other end -/
  | pump (pump : Nat) (act : ClientAction)

/-- The steps of a pump and its link that are not calls. -/
def ClientAction.ofPump : ClientAction → Bool
  | .take _ | .read | .stop | .receive | .complete _ _ => true
  | .urb _ | .unlink _ | .control _ | .reconnect | .reply _ => false

namespace RecoveryWorld

def setCall (self : RecoveryWorld) (index : Nat) (call : RecoveryCall) : RecoveryWorld :=
  { self with calls := self.calls.set index call }

def setPump (self : RecoveryWorld) (pump : Nat) (link : ClientWorld) : RecoveryWorld :=
  { self with pumps := self.pumps.set pump link }

/-- Where a call goes on after a failed try of `reconnect_and_reattach`. -/
def afterFailure (retries : Nat) : ClientError → RecoveryPc
  | .attachRejected => .returned (.error .attachRejected)
  | err => .backingOff retries err

/-- Where a call goes on when `urb_with_length` has returned. -/
def afterUrb (call : RecoveryCall) : Except ClientError UrbComplete → RecoveryCall
  | .ok complete => { call with pc := .returned (.ok complete) }
  | .error err =>
      if err.recoverable ∧ call.attempt = 0 then
        { call with attempt := call.attempt + 1, pc := .locking RECONNECT_RETRIES }
      else { call with pc := .returned (.error err) }

def step (self : RecoveryWorld) : RecoveryAction → Option RecoveryWorld
  | .call urb => some { self with calls := self.calls ++ [{ urb }] }
  | .clone index => do
      let call ← self.calls[index]?
      match call.pc, self.lock with
      | .cloning, none => some (self.setCall index { call with pc := .cloned })
      | _, _ => none
  | .sender index => do
      let call ← self.calls[index]?
      match call.pc with
      | .cloned => some (self.setCall index { call with pc := .sending self.cmdTx })
      | _ => none
  | .send index => do
      let call ← self.calls[index]?
      match call.pc with
      | .sending pump => do
          let link ← self.pumps[pump]?
          let link' ← link.step (.urb call.urb)
          some ((self.setPump pump link').setCall index
            { call with pc := .waiting pump link.urbs.length })
      | _ => none
  | .result index => do
      let call ← self.calls[index]?
      match call.pc with
      | .waiting pump id => do
          let link ← self.pumps[pump]?
          let asked ← link.urbs[id]?
          let answer ← asked.answer
          some (self.setCall index (afterUrb call (urbWithLength answer)))
      | _ => none
  | .lock index => do
      let call ← self.calls[index]?
      match call.pc, self.lock with
      | .locking retries, none =>
          some { self.setCall index { call with pc := .connecting retries } with lock := some index }
      | _, _ => none
  | .connect index result => do
      let call ← self.calls[index]?
      match call.pc with
      | .connecting retries =>
          match result with
          | .ok _ =>
              some { self.setCall index { call with pc := .replacing retries self.pumps.length } with
                pumps := self.pumps ++ [{}] }
          | .error err =>
              some { self.setCall index { call with pc := afterFailure retries err } with lock := none }
      | _ => none
  | .replace index => do
      let call ← self.calls[index]?
      match call.pc with
      | .replacing retries pump =>
          some { self.setCall index { call with pc := .storing retries pump } with
            pumpTask := pump
            aborted := self.aborted ++ [self.pumpTask] }
      | _ => none
  | .store index => do
      let call ← self.calls[index]?
      match call.pc with
      | .storing retries pump =>
          some { self.setCall index { call with pc := .greeting retries } with cmdTx := pump }
      | _ => none
  | .hello index result => do
      let call ← self.calls[index]?
      match call.pc with
      | .greeting retries =>
          match result with
          | .ok _ => some (self.setCall index { call with pc := .attaching retries })
          | .error err =>
              some { self.setCall index { call with pc := afterFailure retries err } with lock := none }
      | _ => none
  | .attach index result => do
      let call ← self.calls[index]?
      match call.pc with
      | .attaching retries =>
          match result with
          | .ok _ => some { self.setCall index { call with pc := .cloning } with lock := none }
          | .error err =>
              some { self.setCall index { call with pc := afterFailure retries err } with lock := none }
      | _ => none
  | .backoff index => do
      let call ← self.calls[index]?
      match call.pc with
      | .backingOff 0 last => some (self.setCall index { call with pc := .returned (.error last) })
      | .backingOff (retries + 1) _ => some (self.setCall index { call with pc := .locking retries })
      | _ => none
  | .pump pump act => do
      let link ← self.pumps[pump]?
      if act.ofPump then (link.step act).map (self.setPump pump) else none

/-- The runs of a client that is connected, with no calls under way. -/
abbrev Runs (history : History RecoveryWorld RecoveryAction) (w : RecoveryWorld) : Prop :=
  Run step {} history w

/-! ## The steps -/

/-- The steps, with their guards. -/
inductive StepCases (w : RecoveryWorld) : RecoveryAction → RecoveryWorld → Prop where
  | call (urb : UrbSubmit) : StepCases w (.call urb) { w with calls := w.calls ++ [{ urb }] }
  | cloned {index : Nat} {call : RecoveryCall} (found : w.calls[index]? = some call)
      (pc : call.pc = .cloning) (free : w.lock = none) :
      StepCases w (.clone index) (w.setCall index { call with pc := .cloned })
  | sender {index : Nat} {call : RecoveryCall} (found : w.calls[index]? = some call)
      (pc : call.pc = .cloned) :
      StepCases w (.sender index) (w.setCall index { call with pc := .sending w.cmdTx })
  | sent {index pump : Nat} {call : RecoveryCall} {link link' : ClientWorld}
      (found : w.calls[index]? = some call) (pc : call.pc = .sending pump)
      (open_ : w.pumps[pump]? = some link) (taken : link.step (.urb call.urb) = some link') :
      StepCases w (.send index)
        ((w.setPump pump link').setCall index { call with pc := .waiting pump link.urbs.length })
  | resolved {index pump id : Nat} {call : RecoveryCall} {link : ClientWorld}
      {asked : ClientCall UrbSubmit UrbComplete} {answer : Except ClientError UrbComplete}
      (found : w.calls[index]? = some call) (pc : call.pc = .waiting pump id)
      (open_ : w.pumps[pump]? = some link) (request : link.urbs[id]? = some asked)
      (answered : asked.answer = some answer) :
      StepCases w (.result index) (w.setCall index (afterUrb call (urbWithLength answer)))
  | locked {index retries : Nat} {call : RecoveryCall} (found : w.calls[index]? = some call)
      (pc : call.pc = .locking retries) (free : w.lock = none) :
      StepCases w (.lock index)
        { w.setCall index { call with pc := .connecting retries } with lock := some index }
  | connected {index retries : Nat} {call : RecoveryCall} (found : w.calls[index]? = some call)
      (pc : call.pc = .connecting retries) :
      StepCases w (.connect index (.ok ()))
        { w.setCall index { call with pc := .replacing retries w.pumps.length } with
          pumps := w.pumps ++ [{}] }
  | replaced {index retries pump : Nat} {call : RecoveryCall} (found : w.calls[index]? = some call)
      (pc : call.pc = .replacing retries pump) :
      StepCases w (.replace index)
        { w.setCall index { call with pc := .storing retries pump } with
          pumpTask := pump
          aborted := w.aborted ++ [w.pumpTask] }
  | stored {index retries pump : Nat} {call : RecoveryCall} (found : w.calls[index]? = some call)
      (pc : call.pc = .storing retries pump) :
      StepCases w (.store index)
        { w.setCall index { call with pc := .greeting retries } with cmdTx := pump }
  | greeted {index retries : Nat} {call : RecoveryCall} (found : w.calls[index]? = some call)
      (pc : call.pc = .greeting retries) :
      StepCases w (.hello index (.ok ())) (w.setCall index { call with pc := .attaching retries })
  | attached {index retries : Nat} {call : RecoveryCall} (found : w.calls[index]? = some call)
      (pc : call.pc = .attaching retries) :
      StepCases w (.attach index (.ok ()))
        { w.setCall index { call with pc := .cloning } with lock := none }
  | failed {index retries : Nat} {call : RecoveryCall} {act : RecoveryAction} {err : ClientError}
      (found : w.calls[index]? = some call)
      (tried : act = .connect index (.error err) ∧ call.pc = .connecting retries ∨
        act = .hello index (.error err) ∧ call.pc = .greeting retries ∨
        act = .attach index (.error err) ∧ call.pc = .attaching retries) :
      StepCases w act
        { w.setCall index { call with pc := afterFailure retries err } with lock := none }
  | gaveUp {index : Nat} {call : RecoveryCall} {last : ClientError}
      (found : w.calls[index]? = some call) (pc : call.pc = .backingOff 0 last) :
      StepCases w (.backoff index) (w.setCall index { call with pc := .returned (.error last) })
  | backedOff {index retries : Nat} {call : RecoveryCall} {last : ClientError}
      (found : w.calls[index]? = some call) (pc : call.pc = .backingOff (retries + 1) last) :
      StepCases w (.backoff index) (w.setCall index { call with pc := .locking retries })
  | pump {pump : Nat} {act : ClientAction} {link link' : ClientWorld}
      (open_ : w.pumps[pump]? = some link) (ofPump : act.ofPump = true)
      (taken : link.step act = some link') :
      StepCases w (.pump pump act) (w.setPump pump link')

theorem step_cases {w w' : RecoveryWorld} {act : RecoveryAction} (h : w.step act = some w') :
    StepCases w act w' := by
  cases act with
  | call urb =>
      cases h
      exact .call urb
  | clone index =>
      obtain ⟨call, found, h⟩ := Option.bind_eq_some_iff.mp h
      split at h
      · rename_i pc free
        cases h
        exact .cloned found pc free
      · cases h
  | sender index =>
      obtain ⟨call, found, h⟩ := Option.bind_eq_some_iff.mp h
      split at h
      · rename_i pc
        cases h
        exact .sender found pc
      · cases h
  | send index =>
      obtain ⟨call, found, h⟩ := Option.bind_eq_some_iff.mp h
      split at h
      · rename_i pump pc
        obtain ⟨link, open_, h⟩ := Option.bind_eq_some_iff.mp h
        obtain ⟨link', taken, h⟩ := Option.bind_eq_some_iff.mp h
        cases h
        exact .sent found pc open_ taken
      · cases h
  | result index =>
      obtain ⟨call, found, h⟩ := Option.bind_eq_some_iff.mp h
      split at h
      · rename_i pump id pc
        obtain ⟨link, open_, h⟩ := Option.bind_eq_some_iff.mp h
        obtain ⟨asked, request, h⟩ := Option.bind_eq_some_iff.mp h
        obtain ⟨answer, answered, h⟩ := Option.bind_eq_some_iff.mp h
        cases h
        exact .resolved found pc open_ request answered
      · cases h
  | lock index =>
      obtain ⟨call, found, h⟩ := Option.bind_eq_some_iff.mp h
      split at h
      · rename_i retries pc free
        cases h
        exact .locked found pc free
      · cases h
  | connect index result =>
      obtain ⟨call, found, h⟩ := Option.bind_eq_some_iff.mp h
      split at h
      · rename_i retries pc
        split at h
        · cases h
          exact .connected found pc
        · cases h
          exact .failed found (.inl ⟨rfl, pc⟩)
      · cases h
  | replace index =>
      obtain ⟨call, found, h⟩ := Option.bind_eq_some_iff.mp h
      split at h
      · rename_i retries pump pc
        cases h
        exact .replaced found pc
      · cases h
  | store index =>
      obtain ⟨call, found, h⟩ := Option.bind_eq_some_iff.mp h
      split at h
      · rename_i retries pump pc
        cases h
        exact .stored found pc
      · cases h
  | hello index result =>
      obtain ⟨call, found, h⟩ := Option.bind_eq_some_iff.mp h
      split at h
      · rename_i retries pc
        split at h
        · cases h
          exact .greeted found pc
        · cases h
          exact .failed found (.inr (.inl ⟨rfl, pc⟩))
      · cases h
  | attach index result =>
      obtain ⟨call, found, h⟩ := Option.bind_eq_some_iff.mp h
      split at h
      · rename_i retries pc
        split at h
        · cases h
          exact .attached found pc
        · cases h
          exact .failed found (.inr (.inr ⟨rfl, pc⟩))
      · cases h
  | backoff index =>
      obtain ⟨call, found, h⟩ := Option.bind_eq_some_iff.mp h
      split at h
      · rename_i last pc
        cases h
        exact .gaveUp found pc
      · rename_i retries last pc
        cases h
        exact .backedOff found pc
      · cases h
  | pump pump act =>
      obtain ⟨link, open_, h⟩ := Option.bind_eq_some_iff.mp h
      split at h
      · rename_i ofPump
        obtain ⟨link', taken, rfl⟩ := Option.map_eq_some_iff.mp h
        exact .pump open_ ofPump taken
      · cases h

/-- The steps are enabled by their guards. -/
theorem StepCases.taken {w w' : RecoveryWorld} {act : RecoveryAction} (h : StepCases w act w') :
    w.step act = some w' := by
  cases h with
  | call urb => rfl
  | cloned found pc free | locked found pc free =>
      simp only [step, found, Option.bind_eq_bind, Option.bind_some, pc, free]
  | sender found pc | connected found pc | replaced found pc | stored found pc | greeted found pc
  | attached found pc | gaveUp found pc | backedOff found pc =>
      simp only [step, found, Option.bind_eq_bind, Option.bind_some, pc]
  | sent found pc open_ taken =>
      simp only [step, found, Option.bind_eq_bind, Option.bind_some, pc, open_, taken]
  | resolved found pc open_ request answered =>
      simp only [step, found, Option.bind_eq_bind, Option.bind_some, pc, open_, request, answered]
  | failed found tried =>
      rcases tried with ⟨rfl, pc⟩ | ⟨rfl, pc⟩ | ⟨rfl, pc⟩ <;>
        simp only [step, found, Option.bind_eq_bind, Option.bind_some, pc]
  | pump open_ ofPump taken =>
      simp only [step, open_, Option.bind_eq_bind, Option.bind_some, ofPump, if_true, taken,
        Option.map_some]

end RecoveryWorld

end FarBus.Core
