/-
  Core/ReplySizes.lean --- which replies of `serve_session` fit in a frame.

  All but one of them are of bounded size, given that the hostname and the list of
  exported devices fit.  The reply to a message that a client should not send carries
  the message's own `Debug` text, and that is up to five times as long as the data of a
  completion, and longer than the detail of an error.  The text goes into a string of at
  most 65,535 bytes, so what fits is a matter of the message.
-/
import FarBus.Protocol.Debug
import FarBus.Protocol.Canonical
import FarBus.Core.DataPlane

set_option autoImplicit false

namespace FarBus.Core

open FarBus.Foundation
open FarBus.Protocol

/-! ## Texts of unsupported messages -/

theorem error_encodable_iff (code : ErrorCode) (detail : String) :
    Encodable (.error code detail) ↔ detail.utf8ByteSize ≤ 65535 := by
  constructor
  · intro h
    exact h.fields
  · intro hle
    refine ⟨hle, ?_⟩
    have hmax : MAX_PAYLOAD = 65600 := rfl
    simp only [payloadBytes, u16StrBytes, List.length_append, length_u16Be, length_strBytes]
    omega

/-- The `Debug` text of a message fits behind `unsupported `.  Only two kinds of message
have long texts. -/
def DebugFits (plain : Char → Bool) : Message → Prop
  | .error code detail => (debugCode code).utf8ByteSize + escapedSize plain detail ≤ 65495
  | .urbComplete urb =>
      (toString urb.seq).utf8ByteSize + (toString urb.status).utf8ByteSize +
        decimalSize urb.data + 2 * (urb.data.length - 1) ≤ 65469
  | _ => True

theorem unsupported_encodable_iff (text : String) :
    Encodable (.error .unsupported ("unsupported " ++ text)) ↔ text.utf8ByteSize ≤ 65523 := by
  have hprefix : "unsupported ".utf8ByteSize = 12 := by decide
  rw [error_encodable_iff, String.utf8ByteSize_append, hprefix]
  omega

theorem debugPairResponse_le (plain : Char → Bool) (pair : PairResponse) :
    (debugMessage plain (.pairResponse pair)).utf8ByteSize ≤ 65523 := by
  have hnames : "PairResponse".utf8ByteSize + "(".utf8ByteSize + "PairResponse".utf8ByteSize +
      " \x7b ".utf8ByteSize + "success".utf8ByteSize + ": ".utf8ByteSize +
      "server_fingerprint".utf8ByteSize + ": ".utf8ByteSize + "auth_token".utf8ByteSize +
      ": ".utf8ByteSize + " \x7d".utf8ByteSize + ")".utf8ByteSize ≤ 100 := by
    decide
  have hsuccess : (toString pair.success).utf8ByteSize ≤ 5 := by cases pair.success <;> decide
  have hfingerprint := decimalSize_le pair.serverFingerprint.toList
  have htoken := decimalSize_le pair.authToken.toList
  rw [Vector.length_toList] at hfingerprint htoken
  simp only [debugMessage, debugTuple, debugStruct, String.utf8ByteSize_append,
    utf8ByteSize_commas, List.map_cons, List.map_nil, List.sum_cons, List.sum_nil,
    List.length_cons, List.length_nil, utf8ByteSize_debugBytes, Vector.length_toList]
  omega

theorem debugAttachResponse_le (plain : Char → Bool) {attach : AttachResponse}
    (h : attach.busId.utf8ByteSize ≤ 255) :
    (debugMessage plain (.attachResponse attach)).utf8ByteSize ≤ 65523 := by
  have hnames : "AttachResponse".utf8ByteSize + "(".utf8ByteSize + "AttachResponse".utf8ByteSize +
      " \x7b ".utf8ByteSize + "device_id".utf8ByteSize + ": ".utf8ByteSize +
      "DeviceId".utf8ByteSize + "(".utf8ByteSize + ")".utf8ByteSize + "success".utf8ByteSize +
      ": ".utf8ByteSize + "usbip_port".utf8ByteSize + ": ".utf8ByteSize + "bus_id".utf8ByteSize +
      ": ".utf8ByteSize + " \x7d".utf8ByteSize + ")".utf8ByteSize ≤ 100 := by
    decide
  have hid := utf8ByteSize_uint32_le attach.deviceId
  have hsuccess : (toString attach.success).utf8ByteSize ≤ 5 := by cases attach.success <;> decide
  have hport := utf8ByteSize_uint16_le attach.usbipPort
  have hbusId := escapedSize_le plain attach.busId
  simp only [debugMessage, debugTuple, debugStruct, debugDeviceId, String.utf8ByteSize_append,
    utf8ByteSize_commas, List.map_cons, List.map_nil, List.sum_cons, List.sum_nil,
    List.length_cons, List.length_nil, utf8ByteSize_debugStr]
  omega

theorem debugUrbUnlinked_le (plain : Char → Bool) (unlinked : UrbUnlinked) :
    (debugMessage plain (.urbUnlinked unlinked)).utf8ByteSize ≤ 65523 := by
  have hnames : "UrbUnlinked".utf8ByteSize + "(".utf8ByteSize + "UrbUnlinked".utf8ByteSize +
      " \x7b ".utf8ByteSize + "seq".utf8ByteSize + ": ".utf8ByteSize + "status".utf8ByteSize +
      ": ".utf8ByteSize + " \x7d".utf8ByteSize + ")".utf8ByteSize ≤ 100 := by
    decide
  have hseq := utf8ByteSize_uint32_le unlinked.seq
  have hstatus := utf8ByteSize_int32_le unlinked.status
  simp only [debugMessage, debugTuple, debugStruct, String.utf8ByteSize_append,
    utf8ByteSize_commas, List.map_cons, List.map_nil, List.sum_cons, List.sum_nil,
    List.length_cons, List.length_nil]
  omega

/-! ## The reader -/

/-- The hostname fits its field, and the list of exported devices its message. -/
structure ServerState.Presentable (server : ServerState) : Prop where
  hostname : server.hostname.utf8ByteSize ≤ 255
  devices : Encodable (.deviceList server.deviceList)

theorem ServerState.Presentable.hello {server : ServerState} (h : server.Presentable) :
    Encodable (.hello
      { protocolMin := VERSION, protocolMax := VERSION, fingerprint := server.fingerprint
        hostname := server.hostname }) := by
  have hhostname := h.hostname
  have hmax : MAX_PAYLOAD = 65600 := rfl
  refine ⟨hhostname, ?_⟩
  simp only [payloadBytes, u8StrBytes, List.length_append, Vector.length_toList, List.length_cons,
    List.length_nil, length_strBytes]
  omega

/-- The bus id of an exported device fits its field. -/
theorem ServerState.Presentable.busId {server : ServerState} (h : server.Presentable)
    {device : DeviceId} {found : LocalDevice}
    (exported : (server.devices.get device).filter (fun found => found.info.exported) =
      some found) : found.info.busId.utf8ByteSize ≤ 255 := by
  obtain ⟨hget, hexported⟩ := Option.filter_eq_some_iff.mp exported
  have hsnapshot : found ∈ server.devices.snapshot :=
    (server.devices.mem_snapshot_iff found).mpr ⟨device, hget⟩
  have hlisted : found.info ∈ server.deviceList.devices :=
    List.mem_map_of_mem (List.mem_filter.mpr ⟨hsnapshot, hexported⟩)
  exact (h.devices.fields.2 _ hlisted).busId

theorem attachResponse_encodable {attach : AttachResponse} (h : attach.busId.utf8ByteSize ≤ 255) :
    Encodable (.attachResponse attach) := by
  have hmax : MAX_PAYLOAD = 65600 := rfl
  refine ⟨h, ?_⟩
  simp only [payloadBytes, u8StrBytes, List.length_append, length_u32Be, length_u16Be,
    List.length_cons, List.length_nil, length_strBytes]
  omega

theorem pairResponse_encodable (pair : PairResponse) : Encodable (.pairResponse pair) := by
  refine ⟨trivial, ?_⟩
  simp only [payloadBytes, List.length_append, Vector.length_toList, List.length_cons,
    List.length_nil]
  decide

theorem detach_encodable (device : DeviceId) : Encodable (.detach device) := by
  refine ⟨trivial, ?_⟩
  simp only [payloadBytes, length_u32Be]
  decide

/-- Where the reader stands with its last message: a reply fits if the message's text
does, and as long as there is no reply, the text does not matter. -/
def Pc.Sized (plain : Char → Bool) (last : Option Message) : Pc → Prop
  | .reading | .draining | .closing | .ended => True
  | .replying reply => ∃ msg, last = some msg ∧ (Encodable reply ↔ DebugFits plain msg)
  | _ => ∃ msg, last = some msg ∧ DebugFits plain msg

section

variable {plain : Char → Bool} {platform : Platform} {start w w' : World}
  {history : ServerHistory} {act : Action} {s : Nat} {session : Session} {server : ServerState}

theorem Session.dispatch_sized (session : Session) (hdebug : platform.debug = debugMessage plain)
    (hserver : server.Presentable) {msg : Message} (hmsg : Encodable msg) :
    (session.dispatch platform server msg).pc.Sized plain (some msg) := by
  have hunsupported (text : String) (hle : text.utf8ByteSize ≤ 65523) :
      Encodable (.error .unsupported ("unsupported " ++ text)) ↔ True :=
    iff_of_true ((unsupported_encodable_iff text).mpr hle) trivial
  cases msg with
  | hello hello => exact ⟨_, rfl, iff_of_true hserver.hello trivial⟩
  | error code detail =>
      refine ⟨_, rfl, ?_⟩
      rw [hdebug, unsupported_encodable_iff, utf8ByteSize_debugError, DebugFits]
      omega
  | urbComplete urb =>
      refine ⟨_, rfl, ?_⟩
      rw [hdebug, unsupported_encodable_iff, utf8ByteSize_debugComplete, DebugFits]
      omega
  | pairResponse pair =>
      refine ⟨_, rfl, ?_⟩
      rw [hdebug]
      exact hunsupported _ (debugPairResponse_le plain pair)
  | attachResponse attach =>
      refine ⟨_, rfl, ?_⟩
      rw [hdebug]
      exact hunsupported _ (debugAttachResponse_le plain hmsg.fields)
  | urbUnlinked unlinked =>
      refine ⟨_, rfl, ?_⟩
      rw [hdebug]
      exact hunsupported _ (debugUrbUnlinked_le plain unlinked)
  | pairRequest req =>
      simp only [Session.dispatch]
      split
      · exact ⟨_, rfl, trivial⟩
      · exact ⟨_, rfl, iff_of_true (pairResponse_encodable _) trivial⟩
  | deviceList list =>
      exact ⟨_, rfl, iff_of_true ((error_encodable_iff _ _).mpr (by decide)) trivial⟩
  | detach device =>
      exact ⟨_, rfl, iff_of_true ((error_encodable_iff _ _).mpr (by decide)) trivial⟩
  | deviceListRequest req | attachRequest req | detachRequest req => exact ⟨_, rfl, trivial⟩
  | urbSubmit urb =>
      simp only [Session.dispatch]
      split
      · exact ⟨_, rfl, iff_of_true ((urbComplete_encodable_iff _).mpr (Nat.zero_le _)) trivial⟩
      · exact ⟨_, rfl, trivial⟩
  | urbUnlink unlink =>
      simp only [Session.dispatch]
      split
      · exact ⟨_, rfl, iff_of_true (encodable_urbUnlinked _) trivial⟩
      · exact ⟨_, rfl, trivial⟩

theorem Session.AdvanceCases.sized {now : Instant} {draw : Draw} {outcome : Outcome}
    {last : Option Message} (entered : session.AdvanceCases platform now draw server s outcome)
    (hserver : server.Presentable) (sized : session.pc.Sized plain last) :
    outcome.session.pc.Sized plain last := by
  have hreply : ∀ {reply : Message}, Encodable reply →
      (∃ msg, last = some msg ∧ DebugFits plain msg) → (Pc.replying reply).Sized plain last := by
    rintro reply hencodable ⟨msg, hlast, hfits⟩
    exact ⟨msg, hlast, iff_of_true hencodable hfits⟩
  cases entered with
  | replied | urbSpawned => trivial
  | pinRefused pc | paired pc =>
      rw [pc] at sized
      exact hreply (pairResponse_encodable _) sized
  | tokenUnknown pc | tokenRefused pc | attachUnknown pc =>
      rw [pc] at sized
      exact hreply ((error_encodable_iff _ _).mpr (by decide)) sized
  | listed pc =>
      rw [pc] at sized
      exact hreply hserver.devices sized
  | attached pc exported =>
      rw [pc] at sized
      exact hreply (attachResponse_encodable (hserver.busId exported)) sized
  | detached pc =>
      rw [pc] at sized
      exact hreply (detach_encodable _) sized
  | urbRefused pc | urbAbsent pc =>
      rw [pc] at sized
      exact hreply ((urbComplete_encodable_iff _).mpr (Nat.zero_le _)) sized
  | unlinked pc =>
      rw [pc] at sized
      exact hreply (encodable_urbUnlinked _) sized
  | pinAccepted pc | issued pc | tokenAccepted pc | authorizedDevices pc | authorizedAttach pc
  | authorizedDetach pc | tokensExamined pc | urbLeased pc | urbPresent pc =>
      rw [pc] at sized
      exact sized

/-- In any run, the readers stand so. -/
theorem sized_run (hstart : World.Starting platform start)
    (hdebug : platform.debug = debugMessage plain) (run : World.Runs platform start history w)
    (hserver : ∀ t ∈ history, t.pre.server.Presentable)
    (hdecoded : ∀ t ∈ history, ∀ s msg, t.act = .recv s msg → ∃ bytes, decode bytes = .ok msg) :
    ∀ (s : Nat) (session : Session), w.sessions[s]? = some session →
      session.pc.Sized plain (lastRequest s history) := by
  induction run with
  | nil =>
      intro s session found
      cases hstart <;> cases found
  | @snoc history pre post act run taken ih =>
      have hpre := ih (fun t ht => hserver t (List.mem_cons_of_mem _ ht))
        fun t ht => hdecoded t (List.mem_cons_of_mem _ ht)
      have hhere := hserver _ List.mem_cons_self
      intro s session' found'
      rcases World.step_session taken found' with ⟨-, -, rfl⟩ | ⟨session, found, hmove⟩
      · trivial
      · cases hmove with
        | kept quiet peer principal pc =>
            rw [lastRequest_quiet quiet, pc]
            exact hpre s session found
        | recv msg hact pc result =>
            obtain ⟨bytes, hbytes⟩ := hdecoded _ List.mem_cons_self s msg hact
            rw [lastRequest_recv hact, result]
            exact session.dispatch_sized hdebug hhere ((decode_eq_ok_iff bytes msg).mp hbytes).1
        | advance draw outcome hact entered result =>
            have hquiet : ∀ msg, act ≠ .recv s msg := by
              intro msg
              rw [hact]
              exact Action.noConfusion
            rw [lastRequest_quiet hquiet, result]
            exact entered.sized hhere (hpre s session found)
        | left quiet live peer principal pc =>
            rcases pc with pc | pc | pc <;> (rw [pc]; trivial)

/-! ## The replies -/

/-- The message that a reply of session `s` is to: the URB of the task that sends it, or
what the reader read last. -/
def repliesTo (s : Nat) (earlier : ServerHistory) (t : Transition World Action) : Option Message :=
  match t.act with
  | .task i _ => (t.pre.tasks[i]?).map fun task => .urbSubmit task.urb
  | _ => lastRequest s earlier

/-- If the reply is what the custom completer resolved the URB to, it has room for the
data. -/
def CustomFits (custom : Option UrbCompleter) (msg reply : Message) : Prop :=
  ∀ completer urb complete, custom = some completer → msg = .urbSubmit urb →
    reply = .urbComplete complete → completer urb complete = true →
    complete.data.length ≤ MAX_COMPLETION

theorem CustomFits.of_encodable {custom : Option UrbCompleter} {msg reply : Message}
    (h : Encodable reply) : CustomFits custom msg reply := by
  intro completer urb complete _ _ hreply _
  rw [hreply] at h
  exact (urbComplete_encodable_iff complete).mp h

/-- Which replies fit.  In a run of a server whose hostname and device list fit, every
reply that a session queues is accepted by `encode` exactly if the `Debug` text of the
client's message is within its bound (it is, for all but errors and completions), and
the completion is not one of a custom completer that overruns a frame. -/
theorem reply_fits_iff {earlier : ServerHistory} {t : Transition World Action}
    (hstart : World.Starting platform start) (hdebug : platform.debug = debugMessage plain)
    (run : World.Runs platform start (t :: earlier) w)
    (hserver : ∀ u ∈ earlier, u.pre.server.Presentable)
    (hdecoded : ∀ u ∈ earlier, ∀ s msg, u.act = .recv s msg → ∃ bytes, decode bytes = .ok msg)
    {reply : Message} (queued : reply ∈ enqueued s t) :
    ∃ msg, repliesTo s earlier t = some msg ∧
      ((∃ frame, encode reply = .ok frame) ↔
        DebugFits plain msg ∧ CustomFits start.server.urbCompleter msg reply) := by
  have hencodes : (∃ frame, encode reply = .ok frame) ↔ Encodable reply :=
    ⟨fun ⟨frame, hframe⟩ => ((encode_eq_ok_iff reply frame).mp hframe).1, encodes_of_encodable⟩
  rw [hencodes]
  obtain ⟨pre, act, post⟩ := t
  obtain ⟨before, taken⟩ : World.Runs platform start earlier pre ∧
      pre.step platform act = some post := by
    cases run with
    | snoc before taken => exact ⟨before, taken⟩
  have hcases := enqueued_cases (s := s) taken
  generalize enqueued s ⟨pre, act, post⟩ = msgs at hcases queued
  cases hcases with
  | nobody => cases queued
  | reader found pc =>
      obtain rfl := List.mem_singleton.mp queued
      have hsized := sized_run hstart hdebug before hserver hdecoded s _ found
      rw [pc] at hsized
      obtain ⟨msg, hlast, hfits⟩ := hsized
      refine ⟨msg, hlast, ?_⟩
      rw [hfits]
      exact ⟨fun h => ⟨h, .of_encodable (hfits.mpr h)⟩, fun h => h.1⟩
  | @task i io task result found home pc =>
      obtain rfl := List.mem_singleton.mp queued
      refine ⟨.urbSubmit task.urb, by simp only [repliesTo, found, Option.map_some], ?_⟩
      have hresult := task_resolution hstart before i task found result (by rw [pc]; rfl)
      constructor
      · intro h
        exact ⟨trivial, .of_encodable h⟩
      · rintro ⟨-, hcustom⟩
        rcases hresult.completedBy with hcompleted | ⟨completer, installed, resolved⟩
        · exact hcompleted.encodable
        · exact (urbComplete_encodable_iff result).mpr
            (hcustom completer task.urb result installed rfl rfl resolved)

/-- A reply that does not fit ends the session. -/
theorem write_fails {reply : Message} {queue : List Message}
    (found : w.sessions[s]? = some session) (joining : session.joining = true)
    (head : session.queue = reply :: queue) (h : ¬ ∃ frame, encode reply = .ok frame) :
    w.step platform (.write s) = some (w.setSession s { session with queue, pc := .closing }) := by
  simp only [World.step, found, Option.bind_eq_bind, Option.bind_some, joining, if_true, head]
  cases hencode : encode reply with
  | ok frame => exact absurd ⟨frame, hencode⟩ h
  | error err => rfl

end

namespace Sample

/-- The platform with the texts that the derived instances write. -/
def debugging : Platform := { platform with debug := debugMessage fun _ => true }

def bare : World := .initial (.new debugging "server" serverFingerprint [] 0 0) 0

/-- An error whose detail is as long as its field allows. -/
def longError : Message := .error .unauthorized (String.ofList (List.replicate 65535 'a'))

/-- The server's answer to it. -/
def longReply : Message := .error .unsupported ("unsupported " ++ debugging.debug longError)

/-- The server with one session. -/
def bareWith (session : Session) : World := { bare with sessions := [session] }

/-- The client connects and sends the error, and the reader starts on its answer. -/
def longExchange : ServerHistory :=
  [⟨bareWith {}, .recv 0 longError, bareWith { pc := .replying longReply }⟩,
    ⟨bare, .accept, bareWith {}⟩]

def longAnswer : Transition World Action :=
  ⟨bareWith { pc := .replying longReply }, .advance 0 (draw 0), bareWith { queue := [longReply] }⟩

theorem starting_bare : World.Starting debugging bare := .new _ _ _ _ _

theorem runs_longAnswer :
    World.Runs debugging bare (longAnswer :: longExchange) (bareWith { queue := [longReply] }) :=
  ((Run.nil.snoc rfl).snoc rfl).snoc rfl

theorem presentable_bare (session : Session) : (bareWith session).server.Presentable := by
  have hnone : ∀ id : DeviceId, (bareWith session).server.devices.present[id]? = none :=
    fun _ => Std.ExtTreeMap.getElem?_empty
  have hsnapshot : (bareWith session).server.devices.snapshot = [] := by
    apply List.eq_nil_iff_forall_not_mem.mpr
    intro device mem
    obtain ⟨id, hid⟩ := (DeviceInventory.mem_snapshot_iff _ device).mp mem
    rw [hnone id] at hid
    cases hid
  have hlist : (bareWith session).server.deviceList = { devices := [] } := by
    rw [ServerState.deviceList, hsnapshot]
    rfl
  have hhostname : "server".utf8ByteSize ≤ 255 := by decide
  refine ⟨hhostname, ?_⟩
  rw [hlist]
  exact ⟨⟨by decide, fun _ mem => absurd mem List.not_mem_nil⟩, by decide⟩

theorem presentable_longExchange : ∀ u ∈ longExchange, u.pre.server.Presentable := by
  intro u mem
  have hserver : u.pre.server = (bareWith {}).server := by
    rcases List.mem_cons.mp mem with rfl | mem
    · rfl
    · rw [List.mem_singleton.mp mem]
      rfl
  rw [hserver]
  exact presentable_bare {}

/-- The error is one that the client can send. -/
theorem decode_longError : ∃ bytes, decode bytes = .ok longError := by
  refine ⟨_, (decode_eq_ok_iff _ longError).mpr ⟨(error_encodable_iff _ _).mpr ?_, rfl⟩⟩
  rw [utf8ByteSize_replicate]
  decide

theorem decoded_longExchange : ∀ u ∈ longExchange, ∀ s msg, u.act = .recv s msg →
    ∃ bytes, decode bytes = .ok msg := by
  intro u mem s msg hact
  rcases List.mem_cons.mp mem with rfl | mem
  · obtain rfl : longError = msg := (Action.recv.inj hact).2
    exact decode_longError
  · rw [List.mem_singleton.mp mem] at hact
    cases hact

theorem escapedSize_as (plain : Char → Bool) (n : Nat) :
    escapedSize plain (String.ofList (List.replicate n 'a')) = n := by
  have ha : (escapeDebug plain 'a').utf8ByteSize = 1 := by
    have hplain : escapeDebug plain 'a' = "a" := rfl
    rw [hplain]
    decide
  rw [escapedSize, String.toList_ofList, List.map_replicate, ha]
  induction n with
  | zero => rfl
  | succ n ih => rw [List.replicate_succ, List.sum_cons, ih, Nat.add_comm]

theorem queued_longReply : longReply ∈ enqueued 0 longAnswer := by
  have hqueue : enqueued 0 longAnswer = [longReply] := rfl
  rw [hqueue]
  exact List.mem_cons_self

theorem not_encodable_longReply : ¬ ∃ frame, encode longReply = .ok frame := by
  rintro ⟨frame, hframe⟩
  have hfits := ((encode_eq_ok_iff longReply frame).mp hframe).1
  have hsize : (debugging.debug longError).utf8ByteSize = 65575 := by
    have hcode : (debugCode .unauthorized).utf8ByteSize = 12 := by decide
    have hdebug : debugging.debug longError = debugMessage (fun _ => true) longError := rfl
    rw [hdebug, longError, utf8ByteSize_debugError, escapedSize_as, hcode]
  rw [longReply, unsupported_encodable_iff, hsize] at hfits
  exact absurd hfits (by decide)

end Sample

theorem sample_reply_fits :
    ∃ msg, repliesTo 0 Sample.longExchange Sample.longAnswer = some msg ∧
      ((∃ frame, encode Sample.longReply = .ok frame) ↔
        DebugFits (fun _ => true) msg ∧
          CustomFits Sample.bare.server.urbCompleter msg Sample.longReply) :=
  reply_fits_iff Sample.starting_bare rfl Sample.runs_longAnswer Sample.presentable_longExchange
    Sample.decoded_longExchange Sample.queued_longReply

/-- A client sends an error whose detail is as long as its field allows, and the server
cannot write its answer: the writer fails, and with it the session. -/
theorem unsupported_reply_overruns :
    World.Starting Sample.debugging Sample.bare ∧
    World.Runs Sample.debugging Sample.bare (Sample.longAnswer :: Sample.longExchange)
      Sample.longAnswer.post ∧
    (∀ u ∈ Sample.longExchange, u.pre.server.Presentable) ∧
    (∃ bytes, decode bytes = .ok Sample.longError) ∧
    repliesTo 0 Sample.longExchange Sample.longAnswer = some Sample.longError ∧
    Sample.longReply ∈ enqueued 0 Sample.longAnswer ∧
    (¬ ∃ frame, encode Sample.longReply = .ok frame) ∧
    ∃ w, Sample.longAnswer.post.step Sample.debugging (.write 0) = some w ∧
      ∃ session, w.sessions[0]? = some session ∧ session.pc = .closing := by
  refine ⟨Sample.starting_bare, Sample.runs_longAnswer, Sample.presentable_longExchange,
    Sample.decode_longError, rfl, Sample.queued_longReply, Sample.not_encodable_longReply, ?_⟩
  have found : Sample.longAnswer.post.sessions[0]? = some { queue := [Sample.longReply] } := rfl
  have found' := lookup_set_self found { queue := [], pc := .closing }
  exact ⟨_, write_fails found rfl rfl Sample.not_encodable_longReply, _, found', rfl⟩

end FarBus.Core
