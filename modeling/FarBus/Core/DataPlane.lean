/-
  Core/DataPlane.lean --- what the data plane says always fits in a frame.

  A transfer has at most 65,536 bytes on the USB/IP side and on the side of the
  backends, and a payload has room for 65,600.  What is left goes to the setup packet
  and to the fields in front of the data.  A message over the limit would end the
  session with every URB in it, so the margin is taken through both ends: what the
  client's pump writes, and what a session's writer takes from its queue.
-/
import FarBus.Core.CompletionRouting
import FarBus.Core.ServerReplies

set_option autoImplicit false

namespace FarBus.Core

open FarBus.Foundation
open FarBus.Protocol

/-! ## The margin of a frame -/

/-- The most data that a completion can carry. -/
def MAX_COMPLETION : Nat := MAX_PAYLOAD - 12

theorem urbComplete_encodable_iff (complete : UrbComplete) :
    Encodable (.urbComplete complete) ↔ complete.data.length ≤ MAX_COMPLETION := by
  have hmax : MAX_PAYLOAD = 65600 := rfl
  have hcompletion : MAX_COMPLETION = 65588 := rfl
  rw [encodable_urbComplete_iff]
  omega

theorem encodes_of_encodable {msg : Message} (h : Encodable msg) :
    ∃ frame, encode msg = .ok frame := ⟨_, (encode_eq_ok_iff msg _).mpr ⟨h, rfl⟩⟩

/-- Then only the socket can make `write_message` fail. -/
theorem writeMessage_eq_io {msg : Message} (h : Encodable msg) (io : Except IoErrorKind Unit) :
    writeMessage io msg = io.mapError FrameError.io := by
  unfold writeMessage
  rw [(encode_eq_ok_iff msg _).mpr ⟨h, rfl⟩]
  cases io <;> rfl

/-! ## What the backends return -/

theorem length_hostRead_le (libusb : Libusb) (submit : UrbSubmit) (size : Nat) :
    (hostRead libusb submit size).data.length ≤ size := by
  unfold hostRead
  split
  · exact List.length_take_le _ _
  · exact Nat.zero_le _

theorem length_hostWrite_le (libusb : Libusb) (submit : UrbSubmit) (size : Nat) :
    (hostWrite libusb submit).data.length ≤ size := by
  unfold hostWrite
  split <;> exact Nat.zero_le _

theorem length_control_le {libusb : Libusb} {submit : UrbSubmit} {complete : UrbComplete}
    (h : control libusb submit = some complete) : complete.data.length ≤ MAX_TRANSFER := by
  have hmax : MAX_TRANSFER = 65536 := rfl
  unfold control at h
  split at h
  · cases h
  · dsimp only at h
    split at h
    · cases h
      refine Nat.le_trans (length_hostRead_le libusb submit _) ?_
      omega
    · cases h
      exact length_hostWrite_le libusb submit _

theorem length_stream_le (libusb : Libusb) (submit : UrbSubmit) :
    (stream libusb submit).data.length ≤ MAX_TRANSFER := by
  unfold stream
  split
  · exact Nat.le_trans (length_hostRead_le libusb submit _) (Nat.min_le_right _ _)
  · exact length_hostWrite_le libusb submit _

theorem length_tryHost_le {libusb : Libusb} {submit : UrbSubmit} {devices : List LocalDevice}
    {complete : UrbComplete} (h : tryHost libusb submit devices = some complete) :
    complete.data.length ≤ MAX_TRANSFER := by
  rcases tryHost_cases h with hcontrol | rfl | rfl
  · exact length_control_le hcontrol
  · exact length_stream_le libusb submit
  · exact Nat.zero_le _

/-- The functions that complete a URB, by what they return for it. -/
inductive CompletedBy (submit : UrbSubmit) : UrbComplete → Prop where
  | completeUrb : CompletedBy submit (completeUrb submit)
  | control (libusb : Libusb) {complete : UrbComplete}
      (transferred : control libusb submit = some complete) : CompletedBy submit complete
  | bulk (libusb : Libusb) : CompletedBy submit (bulk libusb submit)
  | interrupt (libusb : Libusb) : CompletedBy submit (interrupt libusb submit)
  | tryHost (libusb : Libusb) (devices : List LocalDevice) {complete : UrbComplete}
      (transferred : tryHost libusb submit devices = some complete) : CompletedBy submit complete
  | failedUrb : CompletedBy submit (failedUrb submit.seq)

theorem CompletedBy.length_le {submit : UrbSubmit} {complete : UrbComplete}
    (h : CompletedBy submit complete) : complete.data.length ≤ MAX_TRANSFER := by
  cases h with
  | completeUrb => exact length_completeUrb_le submit
  | control libusb transferred => exact length_control_le transferred
  | bulk libusb | interrupt libusb => exact length_stream_le libusb submit
  | tryHost libusb devices transferred => exact length_tryHost_le transferred
  | failedUrb => exact Nat.zero_le _

theorem CompletedBy.encodable {submit : UrbSubmit} {complete : UrbComplete}
    (h : CompletedBy submit complete) : Encodable (.urbComplete complete) := by
  rw [urbComplete_encodable_iff]
  exact Nat.le_trans h.length_le (by decide)

/-- `complete_host_or_emulated` is one of them at a time. -/
theorem completedBy_completeHostOrEmulated (libusb : Libusb) (submit : UrbSubmit)
    (devices : List LocalDevice) :
    CompletedBy submit (completeHostOrEmulated libusb submit devices) := by
  unfold completeHostOrEmulated
  split
  · rename_i transferred
    exact .tryHost libusb devices transferred
  · split
    · exact .completeUrb
    · exact .failedUrb

/-- A task comes to one of these completions, or to one of the custom completer. -/
theorem Resolution.completedBy {custom : Option UrbCompleter} {urb : UrbSubmit}
    {result : UrbComplete} (h : Resolution custom urb result) :
    CompletedBy urb result ∨ ∃ completer, custom = some completer ∧ completer urb result = true := by
  cases h with
  | failed => exact .inl .failedUrb
  | custom installed resolved => exact .inr ⟨_, installed, resolved⟩
  | host libusb devices => exact .inl (completedBy_completeHostOrEmulated libusb urb devices)
  | emulated => exact .inl .completeUrb

/-! ## What a session writes -/

/-- A custom completer, if there is one, keeps to the room that a completion has. -/
def ServerState.CompleterFits (server : ServerState) : Prop :=
  ∀ completer, server.urbCompleter = some completer →
    ∀ urb complete, completer urb complete = true → complete.data.length ≤ MAX_COMPLETION

theorem Resolution.encodable {server : ServerState} {urb : UrbSubmit} {result : UrbComplete}
    (h : Resolution server.urbCompleter urb result) (hcustom : server.CompleterFits) :
    Encodable (.urbComplete result) := by
  rcases h.completedBy with hcompleted | ⟨completer, installed, resolved⟩
  · exact hcompleted.encodable
  · exact (urbComplete_encodable_iff result).mpr (hcustom completer installed urb result resolved)

/-- What the reader says to a URB or an unlink itself carries no data. -/
theorem Exchanged.encodable {req msg : Message} (h : Exchanged req [msg])
    (hdata : isControlReply msg = false) : Encodable msg := by
  cases hreq : isControlRequest req with
  | true =>
      obtain ⟨answer, heq, hanswer⟩ := (exchanged_control hreq).mp h
      cases heq
      rw [hanswer.isControlReply] at hdata
      cases hdata
  | false =>
      cases req with
      | urbSubmit urb =>
          rcases h with heq | ⟨status, heq⟩
          · cases heq
          · cases heq
            exact (urbComplete_encodable_iff _).mpr (Nat.zero_le _)
      | urbUnlink unlink =>
          obtain ⟨status, heq⟩ := h
          cases heq
          exact encodable_urbUnlinked _
      | _ => cases hreq

section

variable {platform : Platform} {start w w' : World} {history : ServerHistory} {act : Action}
  {s : Nat}

theorem Starting.serving (hstart : World.Starting platform start) : Serving s [] start := by
  have hnone : start.sessions[s]? = none := by cases hstart <;> rfl
  refine ⟨fun _ => rfl, ?_⟩
  intro session found
  rw [hnone] at found
  cases found

/-- A message of the data plane that joins a queue can be written. -/
theorem enqueued_encodable (hstart : World.Starting platform start)
    (hcustom : start.server.CompleterFits) (run : World.Runs platform start history w)
    (taken : w.step platform act = some w') {msg : Message} (mem : msg ∈ enqueued s ⟨w, act, w'⟩)
    (hdata : isControlReply msg = false) : Encodable msg := by
  have hcases := enqueued_cases (s := s) taken
  generalize enqueued s ⟨w, act, w'⟩ = msgs at hcases mem
  cases hcases with
  | nobody => cases mem
  | reader found pc =>
      obtain rfl := List.mem_singleton.mp mem
      obtain ⟨current, -, hbusy⟩ := (serving_run run (Starting.serving hstart)).turn _ found
      rw [pc] at hbusy
      obtain ⟨req, -, hexchanged⟩ := hbusy
      exact hexchanged.encodable hdata
  | task found home pc =>
      obtain rfl := List.mem_singleton.mp mem
      have hresult := task_resolution hstart run _ _ found _ (by rw [pc]; rfl)
      exact hresult.encodable hcustom

/-- In any run, a message of the data plane that is on a queue can be written. -/
theorem queue_data_encodable (hstart : World.Starting platform start)
    (hcustom : start.server.CompleterFits) (run : World.Runs platform start history w) :
    ∀ msg ∈ w.queue s, isControlReply msg = false → Encodable msg := by
  induction run with
  | nil =>
      intro msg mem
      have hempty : start.queue s = [] := by cases hstart <;> rfl
      rw [hempty] at mem
      cases mem
  | @snoc history pre post act run taken ih =>
      intro msg mem hdata
      rcases mem_queue_step taken mem with hbefore | hnew
      · exact ih msg hbefore hdata
      · exact enqueued_encodable hstart hcustom run taken hnew hdata

/-- The writer goes on after it. -/
theorem write_step {session : Session} {msg : Message} {queue : List Message}
    (taken : w.step platform (.write s) = some w') (found : w.sessions[s]? = some session)
    (head : session.queue = msg :: queue) (henc : Encodable msg) :
    w'.sessions[s]? = some { session with queue } := by
  obtain ⟨session', found', h⟩ := Option.bind_eq_some_iff.mp taken
  obtain rfl := Option.some.inj (found.symm.trans found')
  simp only [head, (encode_eq_ok_iff msg _).mpr ⟨henc, rfl⟩] at h
  split at h
  · cases h
    exact lookup_set_self found _
  · cases h

end

/-! ## Both ends of a session -/

/-- A submit that passes the length check of `forward_urbs` fits in a frame, and so does
every completion that the backends return.  Hence the writer of a session outlives each
message of the data plane, and what the client's pump writes fails with its socket
only. -/
theorem admitted_urbs_fit :
    (∀ (deviceId : DeviceId) (cmd : UsbipCmdSubmit) (outPayload : Bytes),
      cmd.transferBufferLength.toNat ≤ MAX_TRANSFER →
      outPayload.length = outPayloadLength cmd →
      ∃ urb frame, forwardUrb deviceId cmd outPayload = some urb ∧
        encode (.urbSubmit urb) = .ok frame) ∧
    (∀ (submit : UrbSubmit) (complete : UrbComplete), CompletedBy submit complete →
      ∃ frame, encode (.urbComplete complete) = .ok frame) ∧
    (∀ (platform : Platform) (start : World) (history : ServerHistory) (w : World),
      World.Starting platform start → start.server.CompleterFits →
      World.Runs platform start history w →
      ∀ t ∈ history, ∀ (s : Nat) (session : Session) (msg : Message) (queue : List Message),
        t.act = .write s → t.pre.sessions[s]? = some session → session.queue = msg :: queue →
        isControlReply msg = false → t.post.sessions[s]? = some { session with queue }) ∧
    (∀ (history : History ClientWorld ClientAction) (w : ClientWorld),
      ClientWorld.Runs history w →
      (∀ t ∈ history, ∀ urb, t.act = .urb urb → Forwarded urb) →
      ∀ t ∈ history, ∀ (io : Except IoErrorKind Unit), ∀ cmd ∈ t.pre.queue,
        writeMessage io cmd.message = io.mapError FrameError.io) := by
  refine ⟨?_, ?_, ?_, ?_⟩
  · intro deviceId cmd outPayload hmax hlength
    have hforward : forwardUrb deviceId cmd outPayload = some (usbipUrb deviceId cmd outPayload) :=
      forwardUrb_eq_some outPayload (Nat.not_lt.mpr hmax)
    have hforwarded : Forwarded (usbipUrb deviceId cmd outPayload) :=
      ⟨deviceId, cmd, outPayload, hlength, hforward⟩
    obtain ⟨frame, hframe⟩ := encodes_of_encodable hforwarded.encodable
    exact ⟨_, frame, hforward, hframe⟩
  · intro submit complete hcompleted
    exact encodes_of_encodable hcompleted.encodable
  · intro platform start history w hstart hcustom run t ht s session msg queue hact found head hdata
    obtain ⟨later, earlier, rfl⟩ := List.append_of_mem ht
    obtain ⟨before, taken, -⟩ := run.cut
    rw [hact] at taken
    apply write_step taken found head
    apply queue_data_encodable (s := s) hstart hcustom before msg ?_ hdata
    rw [World.queue_of_found found, head]
    exact List.mem_cons_self
  · intro history w run hforward t ht io cmd mem
    obtain ⟨later, earlier, rfl⟩ := List.append_of_mem ht
    refine writeMessage_eq_io (queue_encodable run.cut.1 ?_ cmd mem) io
    intro u hu
    exact hforward u (List.mem_append_right _ (List.mem_cons_of_mem _ hu))

namespace Sample

/-- The longest control write. -/
def controlWrite : UsbipCmdSubmit :=
  { seqnum := 1, devid := 1, direction := 0, ep := 0, transferFlags := 0
    transferBufferLength := 65536, startFrame := 0, numberOfPackets := 0, interval := 0
    setup := Vector.replicate 8 0 }

/-- Session 0 is about to write a refused completion. -/
def refusing : List Action := [.accept, .recv 0 (.urbSubmit urb), .advance 0 (draw 0)]

def refusal : Session := { queue := [.urbComplete { seq := 7, status := -13, data := [] }] }

end Sample

theorem sample_admitted_urbs_fit :
    (∃ urb frame, forwardUrb 1 Sample.controlWrite (List.replicate 65536 0) = some urb ∧
      encode (.urbSubmit urb) = .ok frame) ∧
    (∃ frame, encode (.urbComplete (completeUrb Sample.urb)) = .ok frame) ∧
    (Sample.last Sample.refusing (.write 0)).post.sessions[0]? =
      some { Sample.refusal with queue := [] } ∧
    writeMessage (.error .other) (Message.urbSubmit (Connections.urb 1 7)) =
      (.error (.io .other) : Except FrameError Unit) := by
  have hlength : (List.replicate 65536 (0 : UInt8)).length =
      outPayloadLength Sample.controlWrite := by
    rw [List.length_replicate]
    decide
  have hcustom : Sample.start.server.CompleterFits := fun _ installed => by cases installed
  have hforward := Connections.forwarded_of_knownUrb
    (show ∀ t ∈ (Connections.after Connections.equal).1, Connections.knownUrb t.act = true by
      decide +kernel)
  have hwritten := admitted_urbs_fit.2.2.2 _ _ (Connections.runs Connections.equal) hforward
    ((Connections.after Connections.equal).1.head (by decide +kernel))
    (List.head_mem _) (.error .other) (.urb (Connections.urb 1 7) 0) (by decide +kernel)
  exact ⟨admitted_urbs_fit.1 1 Sample.controlWrite _ (by decide) hlength,
    admitted_urbs_fit.2.1 Sample.urb _ .completeUrb,
    admitted_urbs_fit.2.2.1 Sample.platform Sample.start _ _ Sample.starting hcustom
      (Sample.runs_last Sample.refusing (.write 0) (by decide +kernel)) _ List.mem_cons_self 0
      Sample.refusal _ [] rfl rfl rfl rfl,
    hwritten⟩

end FarBus.Core
