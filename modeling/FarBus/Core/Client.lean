/-
  Core/Client.lean --- the client of `crates/farbus-core/src/client.rs`: any number of
  calls through clones of one `FarBusClient`, over one I/O pump.

  A call puts a command on the pump's channel and waits on a `oneshot`.  The pump
  registers the reply sender, writes the command's message, and hands each message it
  reads to one of the senders: completions and unlink replies by sequence number,
  everything else in order.  A sender that is dropped without being used makes its call
  return `Closed`.

  The link keeps order and loses nothing.  The server is known by what it does with
  URBs: it completes those it has received in any order, and says anything else at
  any time.  Links carry along for which call a message was written; nobody reads
  that.
-/
import FarBus.Foundation.Transition
import FarBus.Foundation.Table
import FarBus.Core.Frame
import FarBus.Core.Lease

set_option autoImplicit false

namespace FarBus.Core

open FarBus.Foundation
open FarBus.Protocol

def LEASE_DENIED : Int32 := -13

inductive ClientError where
  | frame (err : FrameError)
  | io (kind : IoErrorKind)
  | tls
  | pairRejected
  | unexpected
  | attachRejected
  | closed
  deriving DecidableEq, Repr

/-- What is sent as `ClientCmd::Control`, by the methods of the same names. -/
inductive ControlRequest where
  | hello (fingerprint : PeerFingerprint)
  | pair (fingerprint : PeerFingerprint) (pinHash : Bytes32)
  | devices (authToken : Bytes32)
  | attach (deviceId : DeviceId) (authToken : Bytes32)
  | detach (deviceId : DeviceId) (authToken : Bytes32)
  deriving DecidableEq, Repr

def ControlRequest.message : ControlRequest → Message
  | .hello fingerprint =>
      .hello
        { protocolMin := VERSION, protocolMax := VERSION, fingerprint, hostname := "farbus-client" }
  | .pair clientFingerprint pinHash =>
      .pairRequest { clientFingerprint, pinHash, clientName := "farbus-client" }
  | .devices authToken => .deviceListRequest { authToken }
  | .attach deviceId authToken => .attachRequest { deviceId, authToken }
  | .detach deviceId authToken => .detachRequest { deviceId, authToken }

/-- A command, with its reply sender: the number of the call that waits for it, among
the calls of its kind. -/
inductive ClientCmd where
  | control (req : ControlRequest) (reply : Nat)
  | urb (urb : UrbSubmit) (reply : Nat)
  | unlink (unlink : UrbUnlink) (reply : Nat)
  deriving DecidableEq, Repr

namespace ClientCmd

def message : ClientCmd → Message
  | .control req _ => req.message
  | .urb submit _ => .urbSubmit submit
  | .unlink request _ => .urbUnlink request

def reply : ClientCmd → Nat
  | .control _ reply | .urb _ reply | .unlink _ reply => reply

/-- The reply sender of a URB. -/
def urbReply : ClientCmd → Option Nat
  | .urb _ reply => some reply
  | .control _ _ | .unlink _ _ => none

def unlinkReply : ClientCmd → Option Nat
  | .unlink _ reply => some reply
  | .control _ _ | .urb _ _ => none

def controlReply : ClientCmd → Option Nat
  | .control _ reply => some reply
  | .urb _ _ | .unlink _ _ => none

end ClientCmd

/-- What the receivers of one kind are told in a step. -/
abbrev Answers (α : Type) : Type := List (Nat × Except ClientError α)

/-- The senders are used or dropped; either way the calls report `Closed`. -/
def closedAll {α : Type} (replies : List Nat) : Answers α :=
  replies.map fun reply => (reply, .error .closed)

/-- The answers of a step, by kind. -/
structure Told where
  urbs : Answers UrbComplete := []
  unlinks : Answers Int32 := []
  controls : Answers Message := []

/-! ## The pump -/

structure Pump where
  pendingUrbs : Std.ExtTreeMap UInt32 Nat := {}
  pendingUnlinks : Std.ExtTreeMap UInt32 Nat := {}
  controlReplies : List Nat := []

namespace Pump

/-- The reply sender is registered, before the message is written.  `insert` drops the
sender that was there for the same sequence number. -/
def register (self : Pump) : ClientCmd → Told × Pump
  | .control _ reply => ({}, { self with controlReplies := self.controlReplies ++ [reply] })
  | .urb urb reply =>
      ({ urbs := closedAll (self.pendingUrbs[urb.seq]?).toList },
        { self with pendingUrbs := self.pendingUrbs.insert urb.seq reply })
  | .unlink unlink reply =>
      ({ unlinks := closedAll (self.pendingUnlinks[unlink.seq]?).toList },
        { self with pendingUnlinks := self.pendingUnlinks.insert unlink.seq reply })

/-- What a failed write tells before the loop is left: for a control command the oldest
caller gets the error. -/
def writeFailed (self : Pump) (cmd : ClientCmd) (err : FrameError) : Told × Pump :=
  match cmd with
  | .control _ _ =>
      match self.controlReplies with
      | [] => ({}, self)
      | reply :: controlReplies =>
          ({ controls := [(reply, .error (.frame err))] }, { self with controlReplies })
  | .urb _ _ | .unlink _ _ => ({}, self)

/-- The `match msg` of the pump. -/
def dispatch (self : Pump) (msg : Message) : Told × Pump :=
  match msg with
  | .urbComplete complete =>
      match self.pendingUrbs[complete.seq]? with
      | some reply =>
          ({ urbs := [(reply, .ok complete)] },
            { self with pendingUrbs := self.pendingUrbs.erase complete.seq })
      | none => ({}, self)
  | .urbUnlinked unlinked =>
      match self.pendingUnlinks[unlinked.seq]? with
      | some reply =>
          ({ unlinks := [(reply, .ok unlinked.status)] },
            { self with pendingUnlinks := self.pendingUnlinks.erase unlinked.seq })
      | none => ({}, self)
  | other =>
      match self.controlReplies with
      | [] => ({}, self)
      | reply :: controlReplies =>
          ({ controls := [(reply, .ok other)] }, { self with controlReplies })

/-- After the loop everybody who still waits is told `Closed`, and so are the callers
whose commands are left in the channel, which is dropped. -/
def shutdown (self : Pump) (queue : List ClientCmd) : Told :=
  { urbs := closedAll (self.pendingUrbs.values ++ queue.filterMap ClientCmd.urbReply)
    unlinks := closedAll (self.pendingUnlinks.values ++ queue.filterMap ClientCmd.unlinkReply)
    controls := closedAll (self.controlReplies ++ queue.filterMap ClientCmd.controlReply) }

end Pump

/-! ## The calls -/

/-- A call of one of the methods, and what its receiver was told. -/
structure ClientCall (ρ α : Type) where
  request : ρ
  answer : Option (Except ClientError α) := none
  deriving DecidableEq

/-- A `oneshot` carries one answer. -/
def deliver {ρ α : Type} (calls : List (ClientCall ρ α)) (answers : Answers α) :
    List (ClientCall ρ α) :=
  calls.mapIdx fun id call => { call with answer := call.answer.or (answers.lookup id) }

section

variable {ρ α : Type} {calls : List (ClientCall ρ α)} {answers : Answers α} {id : Nat}

theorem deliver_getElem? (calls : List (ClientCall ρ α)) (answers : Answers α) (id : Nat) :
    (deliver calls answers)[id]? = (calls[id]?).map fun call =>
      { call with answer := call.answer.or (answers.lookup id) } := by
  unfold deliver
  rw [List.getElem?_mapIdx]

@[simp] theorem deliver_nil (calls : List (ClientCall ρ α)) : deliver calls [] = calls := by
  apply List.ext_getElem?
  intro id
  rw [deliver_getElem?]
  cases calls[id]? with
  | none => rfl
  | some call => simp

theorem deliver_unanswered_iff (request : ρ) :
    (deliver calls answers)[id]? = some ⟨request, none⟩ ↔
      calls[id]? = some ⟨request, none⟩ ∧ answers.lookup id = none := by
  rw [deliver_getElem?]
  cases calls[id]? with
  | none => simp
  | some call =>
      obtain ⟨request', answer⟩ := call
      simp [and_assoc]

/-- The answer a call has was there, or is delivered now. -/
theorem of_deliver {request : ρ} {result : Except ClientError α}
    (h : (deliver calls answers)[id]? = some ⟨request, some result⟩) :
    calls[id]? = some ⟨request, some result⟩ ∨
      calls[id]? = some ⟨request, none⟩ ∧ answers.lookup id = some result := by
  rw [deliver_getElem?] at h
  obtain ⟨⟨request', answer⟩, hcall, heq⟩ := Option.map_eq_some_iff.mp h
  rw [ClientCall.mk.injEq] at heq
  obtain ⟨rfl, hanswer⟩ := heq
  cases answer with
  | none => exact .inr ⟨hcall, hanswer⟩
  | some answer =>
      rw [Option.some_or] at hanswer
      rw [hanswer] at hcall
      exact .inl hcall

theorem deliver_of_unanswered {request : ρ} {result : Except ClientError α}
    (h : calls[id]? = some ⟨request, none⟩) (hresult : answers.lookup id = some result) :
    (deliver calls answers)[id]? = some ⟨request, some result⟩ := by
  rw [deliver_getElem?, h]
  simp only [Option.map_some, Option.none_or, hresult]

/-- The requests stay. -/
theorem deliver_request {request : ρ} {answer : Option (Except ClientError α)}
    (answers : Answers α) (h : calls[id]? = some ⟨request, answer⟩) :
    ∃ answer', (deliver calls answers)[id]? = some ⟨request, answer'⟩ := by
  rw [deliver_getElem?, h]
  exact ⟨_, rfl⟩

theorem lookup_singleton (reply : Nat) (answer : Except ClientError α) (id : Nat) :
    ([(reply, answer)] : Answers α).lookup id = if id = reply then some answer else none := by
  rw [List.lookup_cons, List.lookup_nil]
  split
  · rename_i heq
    rw [if_pos (beq_iff_eq.mp heq)]
  · rename_i hne
    rw [if_neg (beq_eq_false_iff_ne.mp hne)]

theorem lookup_closedAll (replies : List Nat) (id : Nat) :
    (closedAll replies : Answers α).lookup id =
      if id ∈ replies then some (.error .closed) else none := by
  unfold closedAll
  induction replies with
  | nil => rfl
  | cons reply replies ih =>
      rw [List.map_cons, List.lookup_cons, ih]
      split
      · rename_i heq
        rw [if_pos]
        rw [beq_iff_eq.mp heq]
        exact List.mem_cons_self
      · rename_i hne
        simp only [List.mem_cons, beq_eq_false_iff_ne.mp hne, false_or]

end

/-- The end of `urb_with_length`. -/
def urbWithLength (answer : Except ClientError UrbComplete) : Except ClientError UrbComplete := do
  let complete ← answer
  if complete.status = LEASE_DENIED then .error .attachRejected else .ok complete

/-! ## A client, its link and the server -/

/-- The capacity of the command channel, `mpsc::channel::<ClientCmd>(256)`. -/
def CMD_QUEUE : Nat := 256

/-- A message on its way to the server. -/
structure Sent where
  msg : Message
  /-- the call it was written for -/
  call : Nat

/-- A URB that the server has received and not completed. -/
structure Outstanding where
  urb : UrbSubmit
  call : Nat
  deriving DecidableEq

/-- A message on its way to the client. -/
structure Arriving where
  msg : Message
  /-- the call whose URB it completes -/
  call : Option Nat

structure ClientWorld where
  urbs : List (ClientCall UrbSubmit UrbComplete) := []
  unlinks : List (ClientCall UrbUnlink Int32) := []
  controls : List (ClientCall ControlRequest Message) := []
  queue : List ClientCmd := []
  /-- `none` while no pump is running -/
  pump : Option Pump := some {}
  toServer : List Sent := []
  outstanding : List Outstanding := []
  toClient : List Arriving := []

inductive ClientAction where
  /-- `urb_with_length` is called on a clone -/
  | urb (urb : UrbSubmit)
  | unlink (unlink : UrbUnlink)
  | control (req : ControlRequest)
  /-- the pump takes a command and writes its message; `io` is what the socket does -/
  | take (io : Except IoErrorKind Unit)
  /-- the pump reads a message -/
  | read
  /-- reading fails, or the pump is aborted by a reconnect -/
  | stop
  /-- a new connection with a pump of its own -/
  | reconnect
  /-- the server reads a message -/
  | receive
  /-- the server completes one of its URBs -/
  | complete (index : Nat) (complete : UrbComplete)
  /-- the server sends something else -/
  | reply (msg : Message)

/-- `write_message`. -/
def writeMessage (io : Except IoErrorKind Unit) (msg : Message) : Except FrameError Unit :=
  match encode msg with
  | .error err => .error (.protocol err)
  | .ok _ =>
      match io with
      | .error kind => .error (.io kind)
      | .ok _ => .ok ()

theorem writeMessage_of_encodable {msg : Message} (h : Encodable msg) :
    writeMessage (.ok ()) msg = .ok () := by
  unfold writeMessage
  rw [(encode_eq_ok_iff msg _).mpr ⟨h, rfl⟩]

theorem io_of_writeMessage {io : Except IoErrorKind Unit} {msg : Message}
    (h : writeMessage io msg = .ok ()) : io = .ok () := by
  unfold writeMessage at h
  split at h
  · cases h
  · split at h
    · cases h
    · rfl

/-- Nothing but the data of a URB can be too long for a frame. -/
theorem ClientCmd.encodable {cmd : ClientCmd}
    (h : ∀ submit reply, cmd = .urb submit reply → Encodable (.urbSubmit submit)) :
    Encodable cmd.message := by
  cases cmd with
  | control req reply =>
      cases req with
      | hello | pair =>
          have hname : "farbus-client".utf8ByteSize ≤ 255 := by decide
          refine ⟨hname, ?_⟩
          simp only [ClientCmd.message, ControlRequest.message, payloadBytes, List.length_append,
            Vector.length_toList, u8StrBytes, List.length_cons, List.length_nil, length_strBytes]
          decide
      | devices | attach | detach =>
          refine ⟨trivial, ?_⟩
          simp only [ClientCmd.message, ControlRequest.message, payloadBytes, List.length_append,
            Vector.length_toList, length_u32Be]
          decide
  | urb submit reply => exact h submit reply rfl
  | unlink request reply =>
      refine ⟨trivial, ?_⟩
      simp only [ClientCmd.message, payloadBytes, List.length_append, length_u32Be]
      decide

def isUrbComplete : Message → Bool
  | .urbComplete _ => true
  | _ => false

namespace ClientWorld

def tell (self : ClientWorld) (told : Told) : ClientWorld :=
  { self with
    urbs := deliver self.urbs told.urbs
    unlinks := deliver self.unlinks told.unlinks
    controls := deliver self.controls told.controls }

/-- `run_client_pump` leaves its loop and returns. -/
def shutdown (self : ClientWorld) (pump : Pump) : ClientWorld :=
  { self.tell (pump.shutdown self.queue) with queue := [], pump := none }

/-- `send_cmd`: waits while the channel is full. -/
def sendCmd (self : ClientWorld) (cmd : ClientCmd) : Option ClientWorld :=
  if self.queue.length < CMD_QUEUE then some { self with queue := self.queue ++ [cmd] } else none

def step (self : ClientWorld) : ClientAction → Option ClientWorld
  | .urb urb =>
      match self.pump with
      | none => some { self with urbs := self.urbs ++ [⟨urb, some (.error .closed)⟩] }
      | some _ =>
          sendCmd { self with urbs := self.urbs ++ [⟨urb, none⟩] } (.urb urb self.urbs.length)
  | .unlink unlink =>
      match self.pump with
      | none => some { self with unlinks := self.unlinks ++ [⟨unlink, some (.error .closed)⟩] }
      | some _ =>
          sendCmd { self with unlinks := self.unlinks ++ [⟨unlink, none⟩] }
            (.unlink unlink self.unlinks.length)
  | .control req =>
      match self.pump with
      | none => some { self with controls := self.controls ++ [⟨req, some (.error .closed)⟩] }
      | some _ =>
          sendCmd { self with controls := self.controls ++ [⟨req, none⟩] }
            (.control req self.controls.length)
  | .take io => do
      let pump ← self.pump
      match self.queue with
      | [] => none
      | cmd :: queue =>
          let registered := pump.register cmd
          let self := { self.tell registered.1 with queue }
          match writeMessage io cmd.message with
          | .ok _ =>
              some { self with
                pump := some registered.2
                toServer := self.toServer ++ [⟨cmd.message, cmd.reply⟩] }
          | .error err =>
              let failed := registered.2.writeFailed cmd err
              some ((self.tell failed.1).shutdown failed.2)
  | .read => do
      let pump ← self.pump
      match self.toClient with
      | [] => none
      | arriving :: toClient =>
          let dispatched := pump.dispatch arriving.msg
          some { self.tell dispatched.1 with pump := some dispatched.2, toClient }
  | .stop => do
      let pump ← self.pump
      some (self.shutdown pump)
  | .reconnect =>
      match self.pump with
      | none => some { self with pump := some {}, toServer := [], outstanding := [], toClient := [] }
      | some _ => none
  | .receive =>
      match self.toServer with
      | [] => none
      | sent :: toServer =>
          some { self with
            toServer
            outstanding := match sent.msg with
              | .urbSubmit urb => self.outstanding ++ [⟨urb, sent.call⟩]
              | _ => self.outstanding }
  | .complete index complete => do
      let completed ← self.outstanding[index]?
      if complete.seq = completed.urb.seq then
        some { self with
          outstanding := self.outstanding.eraseIdx index
          toClient := self.toClient ++ [⟨.urbComplete complete, some completed.call⟩] }
      else none
  | .reply msg =>
      if isUrbComplete msg then none
      else some { self with toClient := self.toClient ++ [⟨msg, none⟩] }

/-- The runs of a client that has just been connected. -/
abbrev Runs (history : History ClientWorld ClientAction) (w : ClientWorld) : Prop :=
  Run step {} history w

/-! ## The steps of the client -/

/-- The steps, with their guards. -/
inductive StepCases (w : ClientWorld) : ClientAction → ClientWorld → Prop where
  | urbDown (urb : UrbSubmit) (down : w.pump = none) :
      StepCases w (.urb urb) { w with urbs := w.urbs ++ [⟨urb, some (.error .closed)⟩] }
  | urb {pump : Pump} (urb : UrbSubmit) (up : w.pump = some pump) :
      StepCases w (.urb urb)
        { w with
          urbs := w.urbs ++ [⟨urb, none⟩]
          queue := w.queue ++ [.urb urb w.urbs.length] }
  | unlinkDown (unlink : UrbUnlink) (down : w.pump = none) :
      StepCases w (.unlink unlink)
        { w with unlinks := w.unlinks ++ [⟨unlink, some (.error .closed)⟩] }
  | unlink {pump : Pump} (unlink : UrbUnlink) (up : w.pump = some pump) :
      StepCases w (.unlink unlink)
        { w with
          unlinks := w.unlinks ++ [⟨unlink, none⟩]
          queue := w.queue ++ [.unlink unlink w.unlinks.length] }
  | controlDown (req : ControlRequest) (down : w.pump = none) :
      StepCases w (.control req)
        { w with controls := w.controls ++ [⟨req, some (.error .closed)⟩] }
  | control {pump : Pump} (req : ControlRequest) (up : w.pump = some pump) :
      StepCases w (.control req)
        { w with
          controls := w.controls ++ [⟨req, none⟩]
          queue := w.queue ++ [.control req w.controls.length] }
  | took {pump : Pump} {cmd : ClientCmd} {queue : List ClientCmd} {io : Except IoErrorKind Unit}
      (up : w.pump = some pump) (head : w.queue = cmd :: queue)
      (written : writeMessage io cmd.message = .ok ()) :
      StepCases w (.take io)
        { w.tell (pump.register cmd).1 with
          queue
          pump := some (pump.register cmd).2
          toServer := w.toServer ++ [⟨cmd.message, cmd.reply⟩] }
  | takeFailed {pump : Pump} {cmd : ClientCmd} {queue : List ClientCmd}
      {io : Except IoErrorKind Unit} {err : FrameError} (up : w.pump = some pump)
      (head : w.queue = cmd :: queue) (failed : writeMessage io cmd.message = .error err) :
      StepCases w (.take io)
        ((({ w.tell (pump.register cmd).1 with queue } : ClientWorld).tell
          ((pump.register cmd).2.writeFailed cmd err).1).shutdown
          ((pump.register cmd).2.writeFailed cmd err).2)
  | read {pump : Pump} {arriving : Arriving} {toClient : List Arriving} (up : w.pump = some pump)
      (head : w.toClient = arriving :: toClient) :
      StepCases w .read
        { w.tell (pump.dispatch arriving.msg).1 with
          pump := some (pump.dispatch arriving.msg).2
          toClient }
  | stop {pump : Pump} (up : w.pump = some pump) : StepCases w .stop (w.shutdown pump)
  | reconnect (down : w.pump = none) :
      StepCases w .reconnect
        { w with pump := some {}, toServer := [], outstanding := [], toClient := [] }
  | receive {sent : Sent} {toServer : List Sent} (head : w.toServer = sent :: toServer) :
      StepCases w .receive
        { w with
          toServer
          outstanding := match sent.msg with
            | .urbSubmit urb => w.outstanding ++ [⟨urb, sent.call⟩]
            | _ => w.outstanding }
  | complete {index : Nat} {complete : UrbComplete} {completed : Outstanding}
      (found : w.outstanding[index]? = some completed) (seq : complete.seq = completed.urb.seq) :
      StepCases w (.complete index complete)
        { w with
          outstanding := w.outstanding.eraseIdx index
          toClient := w.toClient ++ [⟨.urbComplete complete, some completed.call⟩] }
  | reply {msg : Message} (other : isUrbComplete msg = false) :
      StepCases w (.reply msg) { w with toClient := w.toClient ++ [⟨msg, none⟩] }

theorem of_sendCmd {w w' : ClientWorld} {cmd : ClientCmd} (h : w.sendCmd cmd = some w') :
    w' = { w with queue := w.queue ++ [cmd] } := by
  unfold sendCmd at h
  split at h
  · exact (Option.some.inj h).symm
  · cases h

theorem step_cases {w w' : ClientWorld} {act : ClientAction} (h : w.step act = some w') :
    StepCases w act w' := by
  cases act with
  | urb urb =>
      dsimp only [step] at h
      split at h
      · rename_i down
        cases h
        exact .urbDown urb down
      · rename_i up
        rw [of_sendCmd h]
        exact .urb urb up
  | unlink unlink =>
      dsimp only [step] at h
      split at h
      · rename_i down
        cases h
        exact .unlinkDown unlink down
      · rename_i up
        rw [of_sendCmd h]
        exact .unlink unlink up
  | control req =>
      dsimp only [step] at h
      split at h
      · rename_i down
        cases h
        exact .controlDown req down
      · rename_i up
        rw [of_sendCmd h]
        exact .control req up
  | take io =>
      obtain ⟨pump, up, h⟩ := Option.bind_eq_some_iff.mp h
      split at h
      · cases h
      · rename_i cmd queue head
        dsimp only at h
        split at h
        · rename_i written
          cases h
          exact .took up head written
        · rename_i err failed
          cases h
          exact .takeFailed up head failed
  | read =>
      obtain ⟨pump, up, h⟩ := Option.bind_eq_some_iff.mp h
      split at h
      · cases h
      · rename_i arriving toClient head
        cases h
        exact .read up head
  | stop =>
      obtain ⟨pump, up, h⟩ := Option.bind_eq_some_iff.mp h
      cases h
      exact .stop up
  | reconnect =>
      dsimp only [step] at h
      split at h
      · rename_i down
        cases h
        exact .reconnect down
      · cases h
  | receive =>
      dsimp only [step] at h
      split at h
      · cases h
      · rename_i sent toServer head
        cases h
        exact .receive head
  | complete index complete =>
      obtain ⟨completed, found, h⟩ := Option.bind_eq_some_iff.mp h
      split at h
      · rename_i seq
        cases h
        exact .complete found seq
      · cases h
  | reply msg =>
      dsimp only [step] at h
      split at h
      · cases h
      · rename_i other
        cases h
        exact .reply (Bool.eq_false_iff.mpr other)

end ClientWorld

end FarBus.Core
