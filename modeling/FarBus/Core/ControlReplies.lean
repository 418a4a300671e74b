/-
  Core/ControlReplies.lean --- control replies reach their own callers.

  A control message carries no number: the pump hands each control reply to the caller
  who has waited longest.  That is the right one because everything in between keeps
  order.  The pump registers a caller and writes its message in one go; the session
  says one control reply to each control message it reads, before it reads the next;
  and neither completions nor unlink replies count.  So the `k`-th reply popped is what
  the session said to the `k`-th control message of the connection.
-/
import FarBus.Core.Linked
import FarBus.Core.ServerReplies

set_option autoImplicit false

namespace FarBus.Core

open FarBus.Foundation
open FarBus.Protocol

/-! ## What a connection has written and popped -/

/-- What happened since the client connected last. -/
def connection : LinkedHistory → LinkedHistory
  | [] => []
  | t :: earlier =>
      match t.act with
      | .reconnect => []
      | _ => t :: connection earlier

/-- The control command that the pump writes in a step, with the call that waits for it. -/
def writtenControls (t : Transition LinkedWorld LinkedAction) : List (ControlRequest × Nat) :=
  match t.act, t.pre.client.queue with
  | .client (.take io), .control req reply :: _ =>
      match writeMessage io req.message with
      | .ok _ => [(req, reply)]
      | .error _ => []
  | _, _ => []

/-- The reply that is popped off `control_replies` in a step, with what it is told. -/
def poppedReplies (t : Transition LinkedWorld LinkedAction) : List (Nat × Message) :=
  match t.act, t.pre.client.pump, t.pre.client.toClient with
  | .client .read, some pump, arriving :: _ =>
      if isControlReply arriving.msg then
        (pump.controlReplies.head?.map fun reply => (reply, arriving.msg)).toList
      else []
  | _, _, _ => []

/-- The control commands written on the connection. -/
def written (history : LinkedHistory) : List (ControlRequest × Nat) :=
  collect writtenControls (connection history)

def popped (history : LinkedHistory) : List (Nat × Message) :=
  collect poppedReplies (connection history)

/-- The control messages among those on their way to the server. -/
def ClientWorld.requestsUnderWay (w : ClientWorld) : List Message :=
  (w.toServer.map Sent.msg).filter isControlRequest

/-- The control replies among the messages on their way to the client. -/
def ClientWorld.repliesUnderWay (w : ClientWorld) : List Message :=
  (w.toClient.map Arriving.msg).filter isControlReply

section

variable {platform : Platform} {start w w' : LinkedWorld} {history : LinkedHistory}
  {act : LinkedAction} {t : Transition LinkedWorld LinkedAction} {client client' : ClientWorld}

theorem written_cons (h : t.act ≠ .reconnect) :
    written (t :: history) = written history ++ writtenControls t := by
  rw [written, connection]
  split
  · rename_i hact
    exact absurd hact h
  · rfl

theorem popped_cons (h : t.act ≠ .reconnect) :
    popped (t :: history) = popped history ++ poppedReplies t := by
  rw [popped, connection]
  split
  · rename_i hact
    exact absurd hact h
  · rfl

/-! ## The client's steps -/

theorem ControlRequest.isControlRequest (req : ControlRequest) :
    FarBus.Core.isControlRequest req.message = true := by
  cases req <;> rfl

/-- A control reply goes to the caller that has waited longest. -/
theorem Pump.dispatch_control {pump : Pump} {msg : Message} (h : isControlReply msg = true) {reply : Nat}
    {replies : List Nat} (hhead : pump.controlReplies = reply :: replies) :
    pump.dispatch msg =
      ({ controls := [(reply, .ok msg)] }, { pump with controlReplies := replies }) := by
  cases msg with
  | urbComplete | urbUnlinked => cases h
  | _ => simp only [Pump.dispatch, hhead]

theorem Pump.dispatch_not_control {pump : Pump} {msg : Message} (h : isControlReply msg = false) :
    (pump.dispatch msg).2.controlReplies = pump.controlReplies ∧
      (pump.dispatch msg).1.controls = [] := by
  cases msg with
  | urbComplete | urbUnlinked =>
      simp only [Pump.dispatch]
      split <;> exact ⟨rfl, rfl⟩
  | _ => cases h

/-- What a step of the client has to do with the order of the callers and messages. -/
structure ClientEffect (client : ClientWorld) (wrote : List (ControlRequest × Nat))
    (pops : List (Nat × Message)) (client' : ClientWorld) : Prop where
  requests : client'.requestsUnderWay =
    client.requestsUnderWay ++ wrote.map fun entry => entry.1.message
  replies : client.repliesUnderWay = pops.map Prod.snd ++ client'.repliesUnderWay
  waiting : client'.pump = none ∧ wrote = [] ∧ pops = [] ∨
    ∃ pump pump', client.pump = some pump ∧ client'.pump = some pump' ∧
      pump.controlReplies ++ wrote.map Prod.snd = pops.map Prod.fst ++ pump'.controlReplies

theorem ClientEffect.quiet (toServer : client'.toServer = client.toServer)
    (toClient : client'.toClient = client.toClient)
    (pump : client'.pump = client.pump ∨ client'.pump = none) :
    ClientEffect client [] [] client' where
  requests := by simp [ClientWorld.requestsUnderWay, toServer]
  replies := by simp [ClientWorld.repliesUnderWay, toClient]
  waiting := by
    rcases pump with hsame | hnone
    · cases hpump : client.pump with
      | none => exact .inl ⟨hsame.trans hpump, rfl, rfl⟩
      | some pump => exact .inr ⟨pump, pump, rfl, hsame.trans hpump, by simp⟩
    · exact .inl ⟨hnone, rfl, rfl⟩

/-- Whoever reads a control reply has a caller waiting for it. -/
def ClientWorld.Expecting (client : ClientWorld) : Prop :=
  ∀ pump arriving toClient, client.pump = some pump → client.toClient = arriving :: toClient →
    isControlReply arriving.msg = true → pump.controlReplies ≠ []

theorem clientEffect (hexpecting : w.client.Expecting) {act : ClientAction}
    (atClient : act.atClient = true) (taken : w.client.step act = some client') :
    ClientEffect w.client (writtenControls ⟨w, .client act, { w with client := client' }⟩)
      (poppedReplies ⟨w, .client act, { w with client := client' }⟩) client' := by
  cases ClientWorld.step_cases taken with
  | urbDown | urb | unlinkDown | unlink | controlDown | control =>
      exact ClientEffect.quiet rfl rfl (.inl rfl)
  | stop up => exact ClientEffect.quiet rfl rfl (.inr rfl)
  | @takeFailed pump cmd queue io err up head failed =>
      have hwrote : ∀ post, writtenControls ⟨w, .client (.take io), post⟩ = [] := by
        intro post
        simp only [writtenControls, head]
        cases cmd with
        | control req reply =>
            have hfailed : writeMessage io req.message = .error err := failed
            simp only [hfailed]
        | urb | unlink => rfl
      rw [hwrote]
      exact ClientEffect.quiet rfl rfl (.inr rfl)
  | @took pump cmd queue io up head hwritten =>
      cases cmd with
      | control req reply =>
          have hwritten : writeMessage io req.message = .ok () := hwritten
          have hwrote : ∀ post, writtenControls ⟨w, .client (.take io), post⟩ = [(req, reply)] := by
            intro post
            simp only [writtenControls, head, hwritten]
          rw [hwrote]
          refine ⟨?_, rfl, .inr ⟨pump, _, up, rfl, rfl⟩⟩
          simp [ClientWorld.requestsUnderWay, ClientCmd.message, req.isControlRequest]
      | urb urb reply | unlink unlink reply =>
          have hwrote : ∀ post, writtenControls ⟨w, .client (.take io), post⟩ = [] := by
            intro post
            simp only [writtenControls, head]
          rw [hwrote]
          refine ⟨?_, rfl, .inr ⟨pump, _, up, rfl, ?_⟩⟩
          · simp [ClientWorld.requestsUnderWay, ClientCmd.message, isControlRequest]
          · simp [poppedReplies, Pump.register]
  | @read pump arriving toClient up head =>
      cases hcontrol : isControlReply arriving.msg with
      | false =>
          have hpops : ∀ post, poppedReplies ⟨w, .client .read, post⟩ = [] := by
            intro post
            simp only [poppedReplies, up, head, hcontrol]
            rfl
          rw [hpops]
          refine ⟨(List.append_nil _).symm, ?_,
            .inr ⟨pump, _, up, rfl, ?_⟩⟩
          · simp [ClientWorld.repliesUnderWay, head, hcontrol]
          · simp [writtenControls, (Pump.dispatch_not_control hcontrol).1]
      | true =>
          cases hreplies : pump.controlReplies with
          | nil => exact absurd hreplies (hexpecting pump arriving toClient up head hcontrol)
          | cons reply replies =>
              have hpops : ∀ post, poppedReplies ⟨w, .client .read, post⟩ = [(reply, arriving.msg)] := by
                intro post
                simp only [poppedReplies, up, head, hcontrol, hreplies]
                rfl
              rw [hpops]
              refine ⟨(List.append_nil _).symm, ?_,
                .inr ⟨pump, _, up, rfl, ?_⟩⟩
              · simp [ClientWorld.repliesUnderWay, head, hcontrol]
              · simp [writtenControls, Pump.dispatch_control hcontrol hreplies, hreplies]
  | reconnect | receive | complete | reply => cases atClient

/-! ## The connection -/

/-- The callers, the requests and the replies of the connection are in the same order
everywhere. -/
structure Matched (history : LinkedHistory) (w : LinkedWorld) : Prop where
  alive : ∃ session, w.server.sessions[w.session]? = some session
  serving : Serving w.session (exchanges w.session (serverHistory history)) w.server
  carried : ∀ sent ∈ w.client.toServer, carry sent.msg = some sent.msg
  waiting : ∀ pump, w.client.pump = some pump →
    (written history).map Prod.snd = (popped history).map Prod.fst ++ pump.controlReplies
  calls : (popped history).map Prod.fst <+: (written history).map Prod.snd
  requests : (written history).map (fun entry => entry.1.message) =
    ((exchanges w.session (serverHistory history)).map Prod.fst).filter isControlRequest ++
      w.client.requestsUnderWay
  replies : (popped history).map Prod.snd ++ w.client.repliesUnderWay <+:
    (exchanges w.session (serverHistory history)).said.filter isControlReply
  queue : ∀ session, w.server.sessions[w.session]? = some session → session.joining = true →
    (exchanges w.session (serverHistory history)).said.filter isControlReply =
      (popped history).map Prod.snd ++ w.client.repliesUnderWay ++
        session.queue.filter isControlReply

/-- There are at least as many callers as there are replies. -/
theorem Matched.expecting (h : Matched history w) : w.client.Expecting := by
  intro pump arriving toClient up head hcontrol hempty
  have hwritten := congrArg List.length (h.waiting pump up)
  have hrequests := congrArg List.length h.requests
  have hreplies := h.replies.length_le
  obtain ⟨session, found⟩ := h.alive
  obtain ⟨current, hturn, -⟩ := h.serving.turn session found
  have hle := exchanged_matches.length_le hturn
  have hfilter : ((exchanges w.session (serverHistory history)).map Prod.fst).filter
      isControlRequest = ((exchanges w.session (serverHistory history)).filter
        fun exchange => isControlRequest exchange.1).map Prod.fst := by
    rw [List.filter_map]
    rfl
  have hunderWay : 0 < w.client.repliesUnderWay.length := by
    rw [ClientWorld.repliesUnderWay, head, List.map_cons, List.filter_cons_of_pos hcontrol]
    exact Nat.succ_pos _
  rw [hempty, List.append_nil] at hwritten
  rw [hfilter] at hrequests
  simp only [List.length_map, List.length_append] at hwritten hrequests hreplies
  omega

theorem Matched.client_step (h : Matched history w) {act : ClientAction} (atClient : act.atClient = true)
    (taken : w.client.step act = some client') :
    Matched (⟨w, .client act, { w with client := client' }⟩ :: history)
      { w with client := client' } := by
  obtain ⟨hrequests, hreplies, hwaiting⟩ := clientEffect h.expecting atClient taken
  have hserver : serverHistory (⟨w, .client act, { w with client := client' }⟩ :: history) =
      serverHistory history := rfl
  have hact : LinkedAction.client act ≠ .reconnect := by
    intro heq
    cases heq
  have hsame : (popped history ++ poppedReplies ⟨w, .client act, { w with client := client' }⟩).map
        Prod.snd ++ client'.repliesUnderWay =
      (popped history).map Prod.snd ++ w.client.repliesUnderWay := by
    rw [hreplies, List.map_append, List.append_assoc]
  constructor
  · exact h.alive
  · exact h.serving
  · intro sent mem
    cases ClientWorld.step_cases taken with
    | took up head hwritten =>
        rcases List.mem_append.mp mem with mem | mem
        · exact h.carried sent mem
        · rw [List.mem_singleton.mp mem]
          exact carry_of_writeMessage hwritten
    | reconnect | receive | complete | reply => cases atClient
    | _ => exact h.carried sent mem
  · intro pump' up'
    rw [written_cons hact, popped_cons hact, List.map_append, List.map_append]
    rcases hwaiting with ⟨hnone, -, -⟩ | ⟨pump, pump'', hpump, hpump', hcallers⟩
    · exact absurd (up'.symm.trans hnone) (Option.some_ne_none _)
    · obtain rfl := Option.some.inj (up'.symm.trans hpump')
      rw [h.waiting pump hpump, List.append_assoc, hcallers, List.append_assoc]
  · rw [written_cons hact, popped_cons hact, List.map_append, List.map_append]
    rcases hwaiting with ⟨-, hwrote, hpops⟩ | ⟨pump, pump', hpump, -, hcallers⟩
    · rw [hwrote, hpops]
      simpa using h.calls
    · rw [h.waiting pump hpump, List.append_assoc, hcallers, ← List.append_assoc]
      exact List.prefix_append _ _
  · rw [written_cons hact, hserver, List.map_append, h.requests, hrequests, List.append_assoc]
  · rw [popped_cons hact, hserver, hsame]
    exact h.replies
  · intro session found joining
    rw [popped_cons hact, hserver, hsame]
    exact h.queue session found joining

/-- A step of the server, with what it takes off the link and puts on it. -/
theorem Matched.server_step (h : Matched history w) {server' : World} {act' : Action}
    (hserver : serverTransition ⟨w, act, ⟨client', server', w.session⟩⟩ =
      some ⟨w.server, act', server'⟩)
    (taken : w.server.step platform act' = some server') (hact : act ≠ .reconnect)
    (hwritten : writtenControls ⟨w, act, ⟨client', server', w.session⟩⟩ = [])
    (hpopped : poppedReplies ⟨w, act, ⟨client', server', w.session⟩⟩ = [])
    (pump : client'.pump = w.client.pump) (carried : ∀ sent ∈ client'.toServer, sent ∈ w.client.toServer)
    (requests : w.client.requestsUnderWay =
      (received w.session ⟨w.server, act', server'⟩).filter isControlRequest ++
        client'.requestsUnderWay)
    {wrote : List Message}
    (replies : client'.repliesUnderWay = w.client.repliesUnderWay ++ wrote)
    (queue : ∀ session, w.server.sessions[w.session]? = some session →
      (wrote = [] ∨ session.joining = true ∧ wrote <+: session.queue.filter isControlReply) ∧
      ∀ session', server'.sessions[w.session]? = some session' → session'.joining = true →
        session.joining = true ∧
        session.queue.filter isControlReply ++
          (enqueued w.session ⟨w.server, act', server'⟩).filter isControlReply =
            wrote ++ session'.queue.filter isControlReply) :
    Matched (⟨w, act, ⟨client', server', w.session⟩⟩ :: history) ⟨client', server', w.session⟩ := by
  have hhistory : serverHistory (⟨w, act, ⟨client', server', w.session⟩⟩ :: history) =
      ⟨w.server, act', server'⟩ :: serverHistory history := by
    rw [serverHistory, List.filterMap_cons, hserver]
    rfl
  have hsaid : (exchanges w.session (⟨w.server, act', server'⟩ :: serverHistory history)).said.filter
        isControlReply =
      (exchanges w.session (serverHistory history)).said.filter isControlReply ++
        (enqueued w.session ⟨w.server, act', server'⟩).filter isControlReply := by
    rw [exchanges, Exchanges.said_ask, Exchanges.said_say ?_, List.filter_append,
      enqueued_control taken]
    intro hempty
    have hserving := h.serving
    rw [hempty] at hserving
    exact hserving.readerSaid_nil taken
  obtain ⟨session, found⟩ := h.alive
  obtain ⟨hwrote, hqueue⟩ := queue session found
  have hlonger : (popped history).map Prod.snd ++ client'.repliesUnderWay <+:
      (exchanges w.session (serverHistory history)).said.filter isControlReply := by
    rw [replies, ← List.append_assoc]
    rcases hwrote with rfl | ⟨joining, rest, hrest⟩
    · rw [List.append_nil]
      exact h.replies
    · rw [h.queue session found joining, ← hrest, ← List.append_assoc]
      exact List.prefix_append _ _
  constructor
  · exact World.step_session_stays taken found
  · rw [hhistory]
    exact h.serving.step taken
  · exact fun sent mem => h.carried sent (carried sent mem)
  · intro pump' up'
    rw [written_cons hact, popped_cons hact, hwritten, hpopped, List.append_nil, List.append_nil]
    exact h.waiting pump' (pump.symm.trans up')
  · rw [written_cons hact, popped_cons hact, hwritten, hpopped, List.append_nil, List.append_nil]
    exact h.calls
  · rw [written_cons hact, hwritten, List.append_nil, h.requests, requests, hhistory, exchanges,
      Exchanges.map_fst_ask, Exchanges.map_fst_say, List.filter_append, List.append_assoc]
  · rw [popped_cons hact, hpopped, List.append_nil, hhistory, hsaid]
    exact hlonger.trans (List.prefix_append _ _)
  · intro session' found' joining'
    obtain ⟨joining, hkept⟩ := hqueue session' found' joining'
    rw [popped_cons hact, hpopped, List.append_nil, hhistory, hsaid,
      h.queue session found joining, List.append_assoc, hkept, replies]
    simp only [List.append_assoc]

/-- A new session has said nothing. -/
theorem Serving.born {server server' : World} {s : Nat} {log : Exchanges Message Message}
    (h : Serving s log server) (accepted : server.step platform .accept = some server')
    (hnew : server.sessions.length = s) : log = [] ∧ server'.sessions[s]? = some {} := by
  cases World.step_cases accepted with
  | accept =>
      refine ⟨h.unborn (List.getElem?_eq_none (Nat.le_of_eq hnew)), ?_⟩
      rw [← hnew]
      exact List.getElem?_concat_length

theorem Matched.connected {session : Session} (found : w.server.sessions[w.session]? = some session)
    (hsession : session = {}) (hserving : Serving w.session (exchanges w.session (serverHistory history)) w.server)
    (hlog : exchanges w.session (serverHistory history) = []) (hpump : w.client.pump = some {})
    (toServer : w.client.toServer = []) (toClient : w.client.toClient = [])
    (hconnection : connection history = []) : Matched history w := by
  have hwritten : written history = [] := by rw [written, hconnection, collect_nil]
  have hpopped : popped history = [] := by rw [popped, hconnection, collect_nil]
  have hrequests : w.client.requestsUnderWay = [] := by
    rw [ClientWorld.requestsUnderWay, toServer]
    rfl
  have hreplies : w.client.repliesUnderWay = [] := by
    rw [ClientWorld.repliesUnderWay, toClient]
    rfl
  constructor
  · exact ⟨session, found⟩
  · exact hserving
  · rw [toServer]
    exact fun _ mem => absurd mem List.not_mem_nil
  · intro pump up
    obtain rfl := Option.some.inj (hpump.symm.trans up)
    rw [hwritten, hpopped]
    rfl
  · rw [hwritten, hpopped]
    exact List.prefix_rfl
  · rw [hwritten, hlog, hrequests]
    rfl
  · rw [hpopped, hlog, hreplies]
    exact List.prefix_rfl
  · intro session' found' joining
    obtain rfl := Option.some.inj (found.symm.trans found')
    rw [hpopped, hlog, hreplies, hsession]
    rfl

/-- All other sessions have a log of their own. -/
theorem serving_other (hstart : LinkedWorld.Starting platform start)
    (run : LinkedWorld.Runs platform start history w) (s : Nat) (hs : start.session ≤ s) :
    Serving s (exchanges s (serverHistory history)) w.server := by
  apply serving_run (server_run run)
  cases hstart with
  | @connected _ server _ starting before =>
      refine ⟨fun _ => rfl, ?_⟩
      intro session found
      dsimp only at found hs
      rw [List.getElem?_append_right hs, List.getElem?_singleton] at found
      split at found <;> cases found
      exact ⟨none, .closed (fun _ mem => absurd mem List.not_mem_nil), rfl⟩

/-- What a step that is not of its writer does to the queue of a session. -/
theorem queue_kept {server server' : World} {act : Action} {s : Nat} {session : Session}
    (taken : server.step platform act = some server') (hact : act ≠ .write s)
    (found : server.sessions[s]? = some session) :
    ∀ session', server'.sessions[s]? = some session' → session'.joining = true →
      session.joining = true ∧
      session.queue.filter isControlReply ++
        (enqueued s ⟨server, act, server'⟩).filter isControlReply =
          [] ++ session'.queue.filter isControlReply := by
  intro session' found' joining'
  refine ⟨joining_step taken found found' joining', ?_⟩
  rw [queue_step taken hact found found', List.filter_append, List.nil_append]

theorem received_of_offLink {act : Action} {s : Nat} (h : act.onLink s = false) (w w' : World) :
    received s ⟨w, act, w'⟩ = [] ∧ act ≠ .write s := by
  constructor
  · cases act with
    | recv s' msg =>
        have hne : s' ≠ s := by simpa [Action.onLink] using h
        simp only [received, if_neg hne]
    | _ => rfl
  · rintro rfl
    simp [Action.onLink] at h

theorem Matched.step (hstart : LinkedWorld.Starting platform start)
    (run : LinkedWorld.Runs platform start history w)
    (hs : start.session ≤ w.server.sessions.length) (h : Matched history w)
    (moved : w.step platform act = some w') : Matched (⟨w, act, w'⟩ :: history) w' := by
  cases LinkedWorld.step_cases moved with
  | client atClient taken => exact h.client_step atClient taken
  | reconnect down accepted =>
      have hserving := serving_other hstart run w.server.sessions.length hs
      obtain ⟨hlog, found⟩ := hserving.born accepted rfl
      refine Matched.connected found rfl (hserving.step accepted) ?_ rfl rfl rfl rfl
      exact (exchanges_quiet rfl rfl).trans hlog
  | @delivered sent toServer server head carried taken =>
      refine h.server_step ?_ taken LinkedAction.noConfusion rfl rfl rfl ?_ ?_ (List.append_nil _).symm ?_
      · simp only [serverTransition, head, carried, List.head?_cons, Option.map_some]
      · intro sent' mem
        rw [head]
        exact List.mem_cons_of_mem _ mem
      · have hreceived : received w.session ⟨w.server, .recv w.session sent.msg, server⟩ =
            [sent.msg] := by
          simp only [received, if_true]
        rw [hreceived, ClientWorld.requestsUnderWay, head, List.map_cons]
        exact List.filter_append [sent.msg] (toServer.map Sent.msg)
      · intro session found
        exact ⟨.inl rfl, queue_kept taken Action.noConfusion found⟩
  | @garbled sent toServer server head lost taken =>
      have hcarried := h.carried sent (by rw [head]; exact List.mem_cons_self)
      rw [lost] at hcarried
      cases hcarried
  | @write server taken =>
      obtain ⟨session, msg, queue, found, joining, hqueue, hwrote⟩ := World.write_cases taken
      have hself : ∀ new : Session, (w.server.setSession w.session new).sessions[w.session]? = some new :=
        fun _ => lookup_set_self found _
      have henqueued : ∀ new : Session, new.queue = queue →
          enqueued w.session ⟨w.server, .write w.session, w.server.setSession w.session new⟩ = [] := by
        intro new hnew
        rw [enqueued, World.queue_of_found found, World.queue_of_found (hself new), hnew, hqueue]
        exact List.drop_eq_nil_of_le (Nat.le_succ _)
      rcases hwrote with ⟨hcarry, rfl⟩ | ⟨hcarry, rfl⟩
      · have houtgoing : w.outgoing = [⟨msg, none⟩] := by
          simp only [LinkedWorld.outgoing, found, hqueue, List.head?_cons, Option.bind_some, hcarry]
          rfl
        have hreplies : ({ w.client with toClient := w.client.toClient ++ w.outgoing } :
            ClientWorld).repliesUnderWay =
              w.client.repliesUnderWay ++ [msg].filter isControlReply := by
          simp [ClientWorld.repliesUnderWay, houtgoing]
        refine h.server_step rfl taken LinkedAction.noConfusion rfl rfl rfl (fun _ mem => mem) rfl hreplies ?_
        intro session₁ found₁
        obtain rfl := Option.some.inj (found.symm.trans found₁)
        have hhead : session.queue.filter isControlReply =
            [msg].filter isControlReply ++ queue.filter isControlReply := by
          rw [hqueue, ← List.filter_append]
          rfl
        refine ⟨.inr ⟨joining, hhead ▸ List.prefix_append _ _⟩, ?_⟩
        intro session' found' joining'
        obtain rfl := Option.some.inj ((hself _).symm.trans found')
        rw [henqueued _ rfl, hhead]
        exact ⟨joining, List.append_nil _⟩
      · have houtgoing : w.outgoing = [] := by
          simp only [LinkedWorld.outgoing, found, hqueue, List.head?_cons, Option.bind_some, hcarry]
          rfl
        have hreplies : ({ w.client with toClient := w.client.toClient ++ w.outgoing } :
            ClientWorld).repliesUnderWay = w.client.repliesUnderWay ++ [] := by
          simp [ClientWorld.repliesUnderWay, houtgoing]
        refine h.server_step rfl taken LinkedAction.noConfusion rfl rfl rfl (fun _ mem => mem) rfl hreplies ?_
        intro session₁ found₁
        refine ⟨.inl rfl, ?_⟩
        intro session' found' joining'
        obtain rfl := Option.some.inj ((hself _).symm.trans found')
        cases joining'
  | server offLink taken =>
      obtain ⟨hreceived, hact⟩ := received_of_offLink offLink w.server _
      refine h.server_step rfl taken LinkedAction.noConfusion rfl rfl rfl (fun _ mem => mem) ?_
        (List.append_nil _).symm ?_
      · rw [hreceived]
        rfl
      · intro session found
        exact ⟨.inl rfl, queue_kept taken hact found⟩

theorem session_le (hstart : LinkedWorld.Starting platform start)
    (run : LinkedWorld.Runs platform start history w) :
    start.session ≤ w.server.sessions.length := by
  refine (server_run run).invariant (fun server => start.session ≤ server.sessions.length) ?_
    fun _ _ _ h taken => Nat.le_trans h (World.step_sessions_length taken)
  cases hstart with
  | connected => simp

theorem matched_run (hstart : LinkedWorld.Starting platform start)
    (run : LinkedWorld.Runs platform start history w) : Matched history w := by
  refine run.history_invariant Matched ?_ ?_
  · have hserving := serving_other hstart .nil start.session (Nat.le_refl _)
    cases hstart with
    | connected starting before =>
        exact Matched.connected List.getElem?_concat_length rfl hserving rfl rfl rfl rfl rfl
  · intro history pre act post run h taken
    exact h.step hstart run (session_le hstart run) taken

/-! ## The calls -/

/-- The call is for `req`. -/
def ClientWorld.AsksControl (w : ClientWorld) (call : Nat) (req : ControlRequest) : Prop :=
  ∃ answer, w.controls[call]? = some ⟨req, answer⟩

theorem ClientWorld.AsksControl.tell {call : Nat} {req : ControlRequest}
    (h : client.AsksControl call req) (told : Told) : (client.tell told).AsksControl call req := by
  obtain ⟨answer, h⟩ := h
  exact deliver_request told.controls h

theorem ClientWorld.AsksControl.append {call : Nat} {req : ControlRequest}
    (h : client.AsksControl call req) (new : ClientCall ControlRequest Message) :
    ({ client with controls := client.controls ++ [new] } : ClientWorld).AsksControl call req := by
  obtain ⟨answer, h⟩ := h
  exact ⟨answer, by rw [List.getElem?_append_left (List.getElem?_eq_some_iff.mp h).1, h]⟩

theorem asksControl_step {act : ClientAction} {call : Nat} {req : ControlRequest}
    (taken : client.step act = some client') (h : client.AsksControl call req) :
    client'.AsksControl call req := by
  cases ClientWorld.step_cases taken with
  | controlDown | control => exact h.append _
  | took | read => exact h.tell _
  | takeFailed => exact ((h.tell _).tell _).tell _
  | stop => exact h.tell _
  | urbDown | urb | unlinkDown | unlink | reconnect | receive | complete | reply => exact h

/-- What a call is for does not change. -/
theorem asksControl_linked {call : Nat} {req : ControlRequest} (moved : w.step platform act = some w')
    (h : w.client.AsksControl call req) : w'.client.AsksControl call req := by
  cases LinkedWorld.step_cases moved with
  | client atClient taken => exact asksControl_step taken h
  | reconnect | delivered | garbled | write | server => exact h

theorem asksControl_run {call : Nat} {req : ControlRequest}
    (run : Run (LinkedWorld.step platform) w history w') (h : w.client.AsksControl call req) :
    w'.client.AsksControl call req :=
  run.invariant (fun w => w.client.AsksControl call req) h
    fun _ _ _ h moved => asksControl_linked moved h

/-- Commands are for the calls they are marked with. -/
structure Marked (history : LinkedHistory) (w : LinkedWorld) : Prop where
  queued : ∀ req call, ClientCmd.control req call ∈ w.client.queue → w.client.AsksControl call req
  written : ∀ entry ∈ written history, w.client.AsksControl entry.2 entry.1

theorem mem_writtenControls {entry : ControlRequest × Nat} (mem : entry ∈ writtenControls t) :
    ClientCmd.control entry.1 entry.2 ∈ t.pre.client.queue := by
  unfold writtenControls at mem
  split at mem
  · rename_i hqueue
    split at mem
    · rw [List.mem_singleton.mp mem, hqueue]
      exact List.mem_cons_self
    · cases mem
  · cases mem

theorem Marked.step (h : Marked history w) (moved : w.step platform act = some w') :
    Marked (⟨w, act, w'⟩ :: history) w' := by
  constructor
  · intro req call mem
    have hlift : ClientCmd.control req call ∈ w.client.queue → w'.client.AsksControl call req :=
      fun mem => asksControl_linked moved (h.queued req call mem)
    cases LinkedWorld.step_cases moved with
    | client atClient taken =>
        cases ClientWorld.step_cases taken with
        | control req' up =>
            rcases List.mem_append.mp mem with mem | mem
            · exact hlift mem
            · cases List.mem_singleton.mp mem
              exact ⟨none, List.getElem?_concat_length⟩
        | urb | unlink =>
            rcases List.mem_append.mp mem with mem | mem
            · exact hlift mem
            · cases List.mem_singleton.mp mem
        | took up head =>
            apply hlift
            rw [head]
            exact List.mem_cons_of_mem _ mem
        | takeFailed | stop => cases mem
        | urbDown | unlinkDown | controlDown | read | reconnect | receive | complete | reply =>
            exact hlift mem
    | reconnect | delivered | garbled | write | server => exact hlift mem
  · intro entry mem
    by_cases hact : act = .reconnect
    · subst hact
      cases mem
    · rw [written_cons hact] at mem
      rcases List.mem_append.mp mem with mem | mem
      · exact asksControl_linked moved (h.written entry mem)
      · exact asksControl_linked moved (h.queued entry.1 entry.2 (mem_writtenControls mem))

theorem marked_run (hstart : LinkedWorld.Starting platform start)
    (run : LinkedWorld.Runs platform start history w) : Marked history w := by
  refine run.history_invariant Marked ?_ fun _ _ _ _ _ h moved => h.step moved
  cases hstart with
  | connected => exact ⟨fun _ _ mem => absurd mem List.not_mem_nil, fun _ mem => absurd mem List.not_mem_nil⟩

theorem not_ok_of_closedAll {replies : List Nat} {call : Nat} {msg : Message} :
    (closedAll replies : Answers Message).lookup call ≠ some (.ok msg) := by
  rw [lookup_closedAll]
  split
  · intro h
    cases h
  · intro h
    cases h

theorem controls_append_some {calls : List (ClientCall ControlRequest Message)}
    {new : ClientCall ControlRequest Message} {call : Nat} {req : ControlRequest} {msg : Message}
    (h : (calls ++ [new])[call]? = some ⟨req, some (.ok msg)⟩)
    (hnew : new.answer ≠ some (.ok msg)) : calls[call]? = some ⟨req, some (.ok msg)⟩ := by
  rcases Nat.lt_or_ge call calls.length with hlt | hge
  · rwa [List.getElem?_append_left hlt] at h
  · rw [List.getElem?_append_right hge, List.getElem?_singleton] at h
    split at h
    · cases h
      exact absurd rfl hnew
    · cases h

/-- A failed write and the end of the pump tell nobody a message. -/
theorem Pump.not_told {pump : Pump} {cmd : ClientCmd} {err : FrameError} {call : Nat} {msg : Message} :
    (pump.writeFailed cmd err).1.controls.lookup call ≠ some (.ok msg) := by
  cases cmd with
  | control req reply =>
      simp only [Pump.writeFailed]
      split
      · intro h
        cases h
      · rw [lookup_singleton]
        split
        · intro h
          cases h
        · intro h
          cases h
  | urb | unlink =>
      intro h
      cases h

theorem Pump.register_controls (pump : Pump) (cmd : ClientCmd) :
    (pump.register cmd).1.controls = [] := by
  cases cmd <;> rfl

/-- A caller is told a message when its reply is popped. -/
theorem answered_step (hexpecting : w.client.Expecting) {act : ClientAction}
    (atClient : act.atClient = true) (taken : w.client.step act = some client') {call : Nat}
    {req : ControlRequest} {msg : Message}
    (h : client'.controls[call]? = some ⟨req, some (.ok msg)⟩) :
    w.client.controls[call]? = some ⟨req, some (.ok msg)⟩ ∨
      (call, msg) ∈ poppedReplies ⟨w, .client act, { w with client := client' }⟩ := by
  cases ClientWorld.step_cases taken with
  | controlDown req' down => exact .inl (controls_append_some h (fun h => by cases h))
  | control req' up => exact .inl (controls_append_some h (fun h => by cases h))
  | @took pump cmd queue io up head hwritten =>
      rcases of_deliver h with hbefore | ⟨-, htold⟩
      · exact .inl hbefore
      · rw [Pump.register_controls] at htold
        cases htold
  | @takeFailed pump cmd queue io err up head failed =>
      rcases of_deliver h with hfailed | ⟨-, htold⟩
      · rcases of_deliver hfailed with hregistered | ⟨-, htold⟩
        · rcases of_deliver hregistered with hbefore | ⟨-, htold⟩
          · exact .inl hbefore
          · rw [Pump.register_controls] at htold
            cases htold
        · exact absurd htold Pump.not_told
      · exact absurd htold not_ok_of_closedAll
  | @read pump arriving toClient up head =>
      rcases of_deliver h with hbefore | ⟨-, htold⟩
      · exact .inl hbefore
      · right
        cases hcontrol : isControlReply arriving.msg with
        | false =>
            rw [(Pump.dispatch_not_control hcontrol).2] at htold
            cases htold
        | true =>
            cases hreplies : pump.controlReplies with
            | nil => exact absurd hreplies (hexpecting pump arriving toClient up head hcontrol)
            | cons reply replies =>
                rw [Pump.dispatch_control hcontrol hreplies, lookup_singleton] at htold
                split at htold
                · rename_i hcall
                  cases htold
                  simp [poppedReplies, up, head, hcontrol, hreplies, hcall]
                · cases htold
  | stop up =>
      rcases of_deliver h with hbefore | ⟨-, htold⟩
      · exact .inl hbefore
      · exact absurd htold not_ok_of_closedAll
  | urbDown | urb | unlinkDown | unlink => exact .inl h
  | reconnect | receive | complete | reply => cases atClient

/-- A call that got a reply was popped for it. -/
theorem answered_run (hstart : LinkedWorld.Starting platform start)
    (run : LinkedWorld.Runs platform start history w) {call : Nat} {req : ControlRequest}
    {msg : Message} (h : w.client.controls[call]? = some ⟨req, some (.ok msg)⟩) :
    ∃ later t earlier, history = later ++ t :: earlier ∧ (call, msg) ∈ poppedReplies t := by
  induction run with
  | nil =>
      cases hstart
      cases h
  | @snoc history pre post act run moved ih =>
      have hbefore : pre.client.controls[call]? = some ⟨req, some (.ok msg)⟩ →
          ∃ later t earlier, (⟨pre, act, post⟩ :: history) = later ++ t :: earlier ∧
            (call, msg) ∈ poppedReplies t := by
        intro h
        obtain ⟨later, t, earlier, rfl, hpopped⟩ := ih h
        exact ⟨⟨pre, act, post⟩ :: later, t, earlier, rfl, hpopped⟩
      cases LinkedWorld.step_cases moved with
      | client atClient taken =>
          rcases answered_step (matched_run hstart run).expecting atClient taken h with h | hpopped
          · exact hbefore h
          · exact ⟨[], _, history, rfl, hpopped⟩
      | reconnect | delivered | garbled | write | server => exact hbefore h

/-- The `k`-th reply that is popped on the connection belongs to its `k`-th command. -/
theorem popped_matched (hstart : LinkedWorld.Starting platform start)
    (run : LinkedWorld.Runs platform start history w) {k call : Nat} {msg : Message}
    (hk : (popped history)[k]? = some (call, msg)) :
    ∃ req, (written history)[k]? = some (req, call) ∧
      ((exchanges w.session (serverHistory history)).filter
        fun exchange => isControlRequest exchange.1)[k]? = some (req.message, [msg]) ∧
      AnswersTo req.message msg := by
  have h := matched_run hstart run
  obtain ⟨session, found⟩ := h.alive
  obtain ⟨current, hturn, -⟩ := h.serving.turn session found
  have hmsg : ((exchanges w.session (serverHistory history)).said.filter isControlReply)[k]? =
      some msg := by
    obtain ⟨rest, hrest⟩ := h.replies
    have hlt : k < (popped history).length := (List.getElem?_eq_some_iff.mp hk).1
    rw [← hrest, List.append_assoc, List.getElem?_append_left (by rwa [List.length_map]),
      List.getElem?_map, hk]
    rfl
  obtain ⟨asked, hasked, hcomplete⟩ := exchanged_matches.getElem? hturn hmsg
  have hcall : ((written history).map Prod.snd)[k]? = some call := by
    obtain ⟨rest, hrest⟩ := h.calls
    have hlt : k < (popped history).length := (List.getElem?_eq_some_iff.mp hk).1
    rw [← hrest, List.getElem?_append_left (by rwa [List.length_map]), List.getElem?_map, hk]
    rfl
  rw [List.getElem?_map] at hcall
  obtain ⟨⟨req, reply⟩, hreq, rfl⟩ := Option.map_eq_some_iff.mp hcall
  have hmessage : req.message = asked := by
    have hfilter : ((exchanges w.session (serverHistory history)).map Prod.fst).filter
        isControlRequest = ((exchanges w.session (serverHistory history)).filter
          fun exchange => isControlRequest exchange.1).map Prod.fst := by
      rw [List.filter_map]
      rfl
    have hrequests := congrArg (fun requests => requests[k]?) h.requests
    simp only [hfilter] at hrequests
    rw [List.getElem?_map, hreq, List.getElem?_append_left, List.getElem?_map, hasked] at hrequests
    · exact Option.some.inj hrequests
    · rw [List.length_map]
      exact (List.getElem?_eq_some_iff.mp hasked).1
  subst hmessage
  refine ⟨req, hreq, hasked, ?_⟩
  obtain ⟨answer, heq, hanswer⟩ := (exchanged_control req.isControlRequest).mp hcomplete
  cases heq
  exact hanswer

/-- Control replies reach their own callers.  In any run of a client and a server, the
`k`-th reply that is popped on a connection is the one thing that `serve_session` said to
the `k`-th control command written on it; and a call that got a reply was told, in one
of these pops, an answer to its own request. -/
theorem control_replies_matched (hstart : LinkedWorld.Starting platform start)
    (run : LinkedWorld.Runs platform start history w) :
    (∀ (k call : Nat) (msg : Message), (popped history)[k]? = some (call, msg) →
      ∃ req, (written history)[k]? = some (req, call) ∧
        ((exchanges w.session (serverHistory history)).filter
          fun exchange => isControlRequest exchange.1)[k]? = some (req.message, [msg]) ∧
        AnswersTo req.message msg) ∧
    ∀ (call : Nat) (req : ControlRequest) (msg : Message),
      w.client.controls[call]? = some ⟨req, some (.ok msg)⟩ →
      AnswersTo req.message msg ∧
      ∃ later t earlier, ∃ k : Nat, history = later ++ t :: earlier ∧
        (popped (t :: earlier))[k]? = some (call, msg) ∧
        (written (t :: earlier))[k]? = some (req, call) := by
  refine ⟨fun k call msg hk => popped_matched hstart run hk, ?_⟩
  intro call req msg hanswered
  obtain ⟨later, t, earlier, rfl, hpops⟩ := answered_run hstart run hanswered
  obtain ⟨runBefore, moved, runLater⟩ := run.cut
  have hact : t.act ≠ .reconnect := by
    intro hact
    rw [poppedReplies, hact] at hpops
    cases hpops
  have hmem : (call, msg) ∈ popped (t :: earlier) := by
    rw [popped_cons hact]
    exact List.mem_append_right _ hpops
  obtain ⟨k, hk⟩ := List.mem_iff_getElem?.mp hmem
  have runHere := runBefore.snoc moved
  obtain ⟨req', hreq', -, hanswers⟩ := popped_matched hstart runHere hk
  -- the command was marked with this call, so its request is the call's
  have hmarked := (marked_run hstart runHere).written _ (List.mem_of_getElem? hreq')
  obtain ⟨answer, hcall⟩ := asksControl_run runLater hmarked
  dsimp only at hcall
  rw [hanswered, Option.some.injEq, ClientCall.mk.injEq] at hcall
  obtain ⟨rfl, -⟩ := hcall
  exact ⟨hanswers, later, t, earlier, k, rfl, hk, hreq'⟩

end

namespace Sample

/-- A client that has just been connected. -/
def linkedStart : LinkedWorld :=
  { server := { start with sessions := start.sessions ++ [{}] }, session := start.sessions.length }

theorem linkedStarting : LinkedWorld.Starting platform linkedStart := .connected starting .nil

def linkedAfter (acts : List LinkedAction) : LinkedHistory × LinkedWorld :=
  replay (LinkedWorld.step platform) acts ([], linkedStart)

theorem runs_linkedAfter (acts : List LinkedAction) :
    LinkedWorld.Runs platform linkedStart (linkedAfter acts).1 (linkedAfter acts).2 :=
  Run.nil.replay acts

/-- A greeting, a URB and a request for the devices, whose token is not known.  The URB
is refused in between. -/
def greeted : List LinkedAction :=
  [.client (.control (.hello peer)), .client (.urb urb),
    .client (.control (.devices (Vector.replicate 32 9)))] ++
  List.replicate 3 (.client (.take (.ok ()))) ++
  [.deliver, .server (.advance 0 (draw 0)), .deliver, .server (.advance 0 (draw 0)),
    .deliver, .server (.advance 0 (draw 0)), .server (.advance 0 (draw 0))] ++
  List.replicate 3 .write ++ List.replicate 3 (.client .read)

end Sample

theorem sample_control_replies_matched :
    (popped (Sample.linkedAfter Sample.greeted).1)[1]? =
      some (1, .error .unauthorized "invalid token") ∧
    (written (Sample.linkedAfter Sample.greeted).1)[1]? =
      some (.devices (Vector.replicate 32 9), 1) := by
  have hpopped : (popped (Sample.linkedAfter Sample.greeted).1)[1]? =
      some (1, .error .unauthorized "invalid token") := by
    decide +kernel
  have hmatched := control_replies_matched Sample.linkedStarting (Sample.runs_linkedAfter Sample.greeted)
  obtain ⟨req, hwritten, -, -⟩ := hmatched.1 1 1 _ hpopped
  have hcommand : ((written (Sample.linkedAfter Sample.greeted).1)[1]?).map (fun entry => entry.1) =
      some (.devices (Vector.replicate 32 9)) := by
    decide +kernel
  rw [hwritten] at hcommand
  cases hcommand
  exact ⟨hpopped, hwritten⟩

end FarBus.Core
