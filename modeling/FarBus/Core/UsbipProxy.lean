/-
  Core/UsbipProxy.lean --- the URB loops of the two USB/IP servers: `serve_urbs` of
  `crates/farbus-core/src/usbip_proxy.rs`, which completes URBs in process, and
  `forward_urbs` of `crates/farbus-core/src/usbip_forward.rs`, which sends them to the
  remote server.

  Both read commands from one connection, spawn a task for each submit, and put replies
  on a queue that a writer task empties into the connection.  They read alike and
  encode alike.  They differ in where a completion comes from, and in how an unlink is
  answered: `serve_urbs` does it in the reader, `forward_urbs` in a task of its own.

  The input is all the client ever sends; a step that reads it may come at any time.
  Replies carry along which command they answer; nobody reads that.
-/
import FarBus.Foundation.Transition
import FarBus.Core.Client
import FarBus.Core.Urb
import FarBus.Core.UsbipForward

set_option autoImplicit false

namespace FarBus.Core

open FarBus.Foundation
open FarBus.Protocol

/-! ## Commands -/

/-- A command that was read, with the payload that followed it. -/
inductive UsbipCommand where
  | submit (cmd : UsbipCmdSubmit) (outPayload : Bytes)
  | unlink (cmd : UsbipCmdUnlink)
  deriving DecidableEq, Repr

/-- `read_exact`: the bytes, and what follows them. -/
def readExact (n : Nat) (input : Bytes) : Option (Bytes × Bytes) :=
  if input.length < n then none else some (input.take n, input.drop n)

/-- What one iteration of the loops reads.  `none` where the loop is left: the input
ends, the command is not one of the two, or the transfer is too long. -/
def readCommand (input : Bytes) : Option (UsbipCommand × Bytes) := do
  let (header, input) ← readExact 48 input
  let command ← (readU32Be header 0).toOption
  if command = USBIP_CMD_UNLINK then
    let cmd ← (UsbipCmdUnlink.decode header).toOption
    return (.unlink cmd, input)
  else
    guard (command = USBIP_CMD_SUBMIT)
    let cmd ← (UsbipCmdSubmit.decode header).toOption
    guard (cmd.transferBufferLength.toNat ≤ MAX_TRANSFER)
    let (outPayload, input) ← readExact (outPayloadLength cmd) input
    return (.submit cmd outPayload, input)

theorem of_readExact {n : Nat} {input bytes rest : Bytes}
    (h : readExact n input = some (bytes, rest)) : bytes.length = n ∧ input = bytes ++ rest := by
  unfold readExact at h
  split at h
  · cases h
  · rename_i hlength
    cases h
    refine ⟨?_, (List.take_append_drop n input).symm⟩
    rw [List.length_take]
    omega

theorem readExact_append {n : Nat} {bytes : Bytes} (h : bytes.length = n) (rest : Bytes) :
    readExact n (bytes ++ rest) = some (bytes, rest) := by
  have hlength : ¬ (bytes ++ rest).length < n := by
    rw [List.length_append]
    omega
  rw [readExact, if_neg hlength, List.take_left' h, List.drop_left' h]

/-- What is known of a command that was read. -/
theorem of_readCommand {input rest : Bytes} {command : UsbipCommand}
    (h : readCommand input = some (command, rest)) :
    rest.length < input.length ∧ ∀ cmd outPayload, command = .submit cmd outPayload →
      cmd.transferBufferLength.toNat ≤ MAX_TRANSFER ∧
        outPayload.length = outPayloadLength cmd := by
  obtain ⟨⟨header, input'⟩, hheader, hcommand⟩ := Option.bind_eq_some_iff.mp h
  obtain ⟨hlength, hinput⟩ := of_readExact hheader
  obtain ⟨word, -, hbody⟩ := Option.bind_eq_some_iff.mp hcommand
  rw [hinput, List.length_append]
  split at hbody
  · obtain ⟨cmd, -, hunlink⟩ := Option.bind_eq_some_iff.mp hbody
    cases hunlink
    exact ⟨by omega, by simp⟩
  · obtain ⟨_, -, hsubmit⟩ := Option.bind_eq_some_iff.mp hbody
    obtain ⟨cmd, -, hchecked⟩ := Option.bind_eq_some_iff.mp hsubmit
    obtain ⟨_, hmax, hread⟩ := Option.bind_eq_some_iff.mp hchecked
    obtain ⟨⟨outPayload, input''⟩, hpayload, hresult⟩ := Option.bind_eq_some_iff.mp hread
    obtain ⟨hpayloadLength, hrest⟩ := of_readExact hpayload
    cases hresult
    rw [hrest, List.length_append]
    refine ⟨by omega, ?_⟩
    intro cmd' outPayload' heq
    cases heq
    exact ⟨by simpa using hmax, hpayloadLength⟩

/-! ## Replies -/

def retSubmit (cmd : UsbipCmdSubmit) (complete : UrbComplete) : UsbipRetSubmit :=
  { seqnum := cmd.seqnum
    devid := cmd.devid
    direction := cmd.direction
    ep := cmd.ep
    status := complete.status
    -- `u32::try_from(complete.data.len()).unwrap_or(0)`
    actualLength := if complete.data.length < 2 ^ 32 then UInt32.ofNat complete.data.length else 0
    startFrame := 0
    numberOfPackets := 0
    errorCount := 0
    setup := Vector.replicate 8 0 }

/-- The data of an IN transfer follows the header. -/
def retSubmitBytes (cmd : UsbipCmdSubmit) (complete : UrbComplete) : Bytes :=
  (retSubmit cmd complete).encode ++
    (if cmd.direction = 1 ∧ complete.data ≠ [] then complete.data else [])

def retUnlink (cmd : UsbipCmdUnlink) (status : Int32) : UsbipRetUnlink :=
  { seqnum := cmd.seqnum, devid := cmd.devid, direction := cmd.direction, ep := cmd.ep, status }

/-- What the call that a task awaits returns. -/
inductive UsbipResult where
  /-- `complete_urb`, or `urb_with_recovery` -/
  | urb (result : Except ClientError UrbComplete)
  /-- `FarBusClient::unlink` -/
  | unlink (result : Except ClientError Int32)

/-- `unwrap_or_else(|_| UrbComplete { seq, status: -1, data: Vec::new() })`. -/
def urbOrFailed (cmd : UsbipCmdSubmit) : Except ClientError UrbComplete → UrbComplete
  | .ok complete => complete
  | .error _ => failedUrb cmd.seqnum

/-- `unwrap_or(0)`. -/
def statusOrZero : Except ClientError Int32 → Int32
  | .ok status => status
  | .error _ => 0

/-- The reply of a task, once its call has returned. -/
def replyBytes : UsbipCommand → UsbipResult → Option Bytes
  | .submit cmd _, .urb result => some (retSubmitBytes cmd (urbOrFailed cmd result))
  | .unlink cmd, .unlink result => some (retUnlink cmd (statusOrZero result)).encode
  | _, _ => none

/-! ## A connection -/

/-- What the two loops differ in. -/
structure UrbLoop where
  deviceId : DeviceId
  /-- the reader answers unlinks itself -/
  inlineUnlink : Bool
  /-- what the call of a submit's task may return -/
  mayReturn : UrbSubmit → Except ClientError UrbComplete → Bool

/-- The completion is computed in process. -/
def serveUrbs (deviceId : DeviceId) : UrbLoop :=
  { deviceId
    inlineUnlink := true
    mayReturn := fun urb result => result = .ok (completeUrb urb) }

/-- The completion was read from a frame, or the call failed. -/
def forwardUrbs (deviceId : DeviceId) : UrbLoop :=
  { deviceId
    inlineUnlink := false
    mayReturn := fun _ result =>
      match result with
      | .ok complete => (encode (.urbComplete complete)).isOk
      | .error _ => true }

/-- The capacity of the queue of replies, `mpsc::channel(256)`. -/
def REPLY_QUEUE : Nat := 256

inductive UsbipReader where
  | reading
  /-- in `out_tx.send` with the reply to an unlink -/
  | replying (cmd : UsbipCmdUnlink)
  /-- the loop is left -/
  | stopped
  deriving DecidableEq, Repr

inductive UsbipTaskPc where
  /-- in the call that completes the command -/
  | calling
  /-- in `out_tx.send` -/
  | sending (bytes : Bytes)
  | finished
  deriving DecidableEq, Repr

structure UsbipTask where
  command : UsbipCommand
  pc : UsbipTaskPc := .calling
  deriving DecidableEq, Repr

structure Outgoing where
  bytes : Bytes
  /-- the command it answers -/
  command : UsbipCommand
  deriving DecidableEq, Repr

structure UsbipConn where
  /-- what is not read yet -/
  input : Bytes
  reader : UsbipReader := .reading
  tasks : List UsbipTask := []
  queue : List Outgoing := []
  written : List Outgoing := []
  /-- the writer has not failed -/
  writing : Bool := true
  deriving DecidableEq, Repr

inductive UsbipAction where
  /-- the loop reads a command -/
  | read
  /-- the reader's `out_tx.send` goes through -/
  | reply
  /-- the call of a task returns -/
  | complete (task : Nat) (result : UsbipResult)
  /-- the `out_tx.send` of a task goes through -/
  | send (task : Nat)
  /-- the writer writes a reply -/
  | write
  /-- the writer fails, and the queue is dropped -/
  | writeFails

namespace UsbipConn

/-- `out_tx.send`: waits while the queue is full, and fails when the writer is gone. -/
def push (self : UsbipConn) (outgoing : Outgoing) : Option UsbipConn :=
  if self.writing then
    if self.queue.length < REPLY_QUEUE then some { self with queue := self.queue ++ [outgoing] }
    else none
  else some self

/-- The command of an iteration is dealt with. -/
def start (loop : UrbLoop) (self : UsbipConn) : UsbipCommand → UsbipConn
  | .submit cmd outPayload => { self with tasks := self.tasks ++ [⟨.submit cmd outPayload, .calling⟩] }
  | .unlink cmd =>
      if loop.inlineUnlink then { self with reader := .replying cmd }
      else { self with tasks := self.tasks ++ [⟨.unlink cmd, .calling⟩] }

/-- The call of a task may return so. -/
def returns (loop : UrbLoop) (command : UsbipCommand) (result : UsbipResult) : Bool :=
  match command, result with
  | .submit cmd outPayload, .urb result =>
      loop.mayReturn (usbipUrb loop.deviceId cmd outPayload) result
  | .unlink _, .unlink _ => true
  | _, _ => false

def step (loop : UrbLoop) (self : UsbipConn) : UsbipAction → Option UsbipConn
  | .read =>
      match self.reader with
      | .reading =>
          match readCommand self.input with
          | none => some { self with reader := .stopped }
          | some (command, input) => some (start loop { self with input } command)
      | _ => none
  | .reply =>
      match self.reader with
      | .replying cmd =>
          push { self with reader := .reading } ⟨(retUnlink cmd 0).encode, .unlink cmd⟩
      | _ => none
  | .complete index result => do
      let task ← self.tasks[index]?
      guard (task.pc = .calling)
      guard (returns loop task.command result)
      let bytes ← replyBytes task.command result
      some { self with tasks := self.tasks.set index { task with pc := .sending bytes } }
  | .send index => do
      let task ← self.tasks[index]?
      match task.pc with
      | .sending bytes =>
          push { self with tasks := self.tasks.set index { task with pc := .finished } }
            ⟨bytes, task.command⟩
      | _ => none
  | .write =>
      if self.writing then
        match self.queue with
        | [] => none
        | outgoing :: queue => some { self with queue, written := self.written ++ [outgoing] }
      else none
  | .writeFails => if self.writing then some { self with writing := false, queue := [] } else none

/-- The runs of a connection. -/
abbrev Runs (loop : UrbLoop) (input : Bytes) (history : History UsbipConn UsbipAction)
    (w : UsbipConn) : Prop :=
  Run (step loop) { input } history w

/-! ## The steps of a connection -/

/-- The queue after a reply is sent to it. -/
def pushed (self : UsbipConn) (outgoing : Outgoing) : List Outgoing :=
  if self.writing then self.queue ++ [outgoing] else self.queue

theorem of_push {w w' : UsbipConn} {outgoing : Outgoing} (h : w.push outgoing = some w') :
    w' = { w with queue := w.pushed outgoing } := by
  unfold push at h
  unfold pushed
  split at h
  · rename_i hwriting
    split at h
    · cases h
      rw [if_pos hwriting]
    · cases h
  · rename_i hwriting
    cases h
    rw [if_neg hwriting]

/-- The steps, with their guards. -/
inductive StepCases (loop : UrbLoop) (w : UsbipConn) : UsbipAction → UsbipConn → Prop where
  | stopped (reading : w.reader = .reading) (ended : readCommand w.input = none) :
      StepCases loop w .read { w with reader := .stopped }
  | inline {cmd : UsbipCmdUnlink} {input : Bytes} (reading : w.reader = .reading)
      (received : readCommand w.input = some (.unlink cmd, input))
      (inline : loop.inlineUnlink = true) :
      StepCases loop w .read { w with input, reader := .replying cmd }
  | spawned {command : UsbipCommand} {input : Bytes} (reading : w.reader = .reading)
      (received : readCommand w.input = some (command, input)) :
      StepCases loop w .read { w with input, tasks := w.tasks ++ [⟨command, .calling⟩] }
  | replied {cmd : UsbipCmdUnlink} (replying : w.reader = .replying cmd) :
      StepCases loop w .reply
        { w with
          reader := .reading
          queue := w.pushed ⟨(retUnlink cmd 0).encode, .unlink cmd⟩ }
  | completed {index : Nat} {task : UsbipTask} {result : UsbipResult} {bytes : Bytes}
      (found : w.tasks[index]? = some task) (pc : task.pc = .calling)
      (returned : returns loop task.command result = true)
      (reply : replyBytes task.command result = some bytes) :
      StepCases loop w (.complete index result)
        { w with tasks := w.tasks.set index { task with pc := .sending bytes } }
  | sent {index : Nat} {task : UsbipTask} {bytes : Bytes} (found : w.tasks[index]? = some task)
      (pc : task.pc = .sending bytes) :
      StepCases loop w (.send index)
        { w with
          tasks := w.tasks.set index { task with pc := .finished }
          queue := w.pushed ⟨bytes, task.command⟩ }
  | wrote {outgoing : Outgoing} {queue : List Outgoing} (writing : w.writing = true)
      (head : w.queue = outgoing :: queue) :
      StepCases loop w .write { w with queue, written := w.written ++ [outgoing] }
  | writeFailed (writing : w.writing = true) :
      StepCases loop w .writeFails { w with writing := false, queue := [] }

theorem step_cases {loop : UrbLoop} {w w' : UsbipConn} {act : UsbipAction}
    (h : w.step loop act = some w') : StepCases loop w act w' := by
  cases act with
  | read =>
      dsimp only [step] at h
      split at h
      · rename_i reading
        split at h
        · rename_i ended
          cases h
          exact .stopped reading ended
        · rename_i command input received
          cases h
          cases command with
          | submit cmd outPayload => exact .spawned reading received
          | unlink cmd =>
              dsimp only [start]
              split
              · rename_i inline
                exact .inline reading received inline
              · exact .spawned reading received
      · cases h
  | reply =>
      dsimp only [step] at h
      split at h
      · rename_i cmd replying
        rw [of_push h]
        exact .replied replying
      · cases h
  | complete index result =>
      obtain ⟨task, found, h⟩ := Option.bind_eq_some_iff.mp h
      obtain ⟨_, pc, h⟩ := Option.bind_eq_some_iff.mp h
      obtain ⟨_, returned, h⟩ := Option.bind_eq_some_iff.mp h
      obtain ⟨bytes, reply, h⟩ := Option.bind_eq_some_iff.mp h
      cases h
      exact .completed found (by simpa using pc) (by simpa using returned) reply
  | send index =>
      obtain ⟨task, found, h⟩ := Option.bind_eq_some_iff.mp h
      split at h
      · rename_i bytes pc
        rw [of_push h]
        exact .sent found pc
      · cases h
  | write =>
      dsimp only [step] at h
      split at h
      · rename_i writing
        split at h
        · cases h
        · rename_i outgoing queue head
          cases h
          exact .wrote writing head
      · cases h
  | writeFails =>
      dsimp only [step] at h
      split at h
      · rename_i writing
        cases h
        exact .writeFailed writing
      · cases h

end UsbipConn

namespace Sample

/-- A read of eight bytes on endpoint 1, as a client sends it. -/
def inSubmit : UsbipCmdSubmit :=
  { seqnum := 1, devid := 1, direction := 1, ep := 1, transferFlags := 0, transferBufferLength := 8
    startFrame := 0, numberOfPackets := 0, interval := 0, setup := Vector.replicate 8 0 }

def outSubmit : UsbipCmdSubmit := { inSubmit with direction := 0, transferBufferLength := 2 }

def unlinkBytes (cmd : UsbipCmdUnlink) : Bytes :=
  u32Be USBIP_CMD_UNLINK ++ u32Be cmd.seqnum ++ u32Be cmd.devid ++ u32Be cmd.direction ++
    u32Be cmd.ep ++ u32Be cmd.unlinkSeqnum ++ List.replicate 24 0

/-- The unlink of either submit. -/
def unlink : UsbipCmdUnlink := { seqnum := 2, devid := 1, direction := 0, ep := 1, unlinkSeqnum := 1 }

/-- A connection whose client sends a submit and unlinks it. -/
def unlinking : UsbipConn := { input := outSubmit.encode ++ [5, 6] ++ unlinkBytes unlink }

def serving : UrbLoop := serveUrbs 1

/-- What the task of the submit computes. -/
def outComplete : UsbipAction :=
  .complete 0 (.urb (.ok (completeUrb (usbipUrb 1 outSubmit [5, 6]))))

def connAfter (acts : List UsbipAction) : History UsbipConn UsbipAction × UsbipConn :=
  replay (UsbipConn.step serving) acts ([], unlinking)

theorem runs_connAfter (acts : List UsbipAction) :
    UsbipConn.Runs serving unlinking.input (connAfter acts).1 (connAfter acts).2 :=
  Run.nil.replay acts

end Sample

end FarBus.Core
