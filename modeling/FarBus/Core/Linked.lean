/-
  Core/Linked.lean --- a client and its server: `run_client_pump` at one end of a link,
  `serve_session` at the other.

  The link keeps order and loses nothing: a message is written as a frame, and what is
  read is what the frame decodes to.  The client side is that of `ClientWorld`, whose
  own idea of a server is not used here; the server side is a session of `World`, among
  any number of other sessions and all that goes on besides.  A reconnect gives the
  client a new pump, and the link a new session.
-/
import FarBus.Protocol.Canonical
import FarBus.Core.Client
import FarBus.Core.SessionStep

set_option autoImplicit false

namespace FarBus.Core

open FarBus.Foundation
open FarBus.Protocol

/-- What is read where `msg` was written. -/
def carry (msg : Message) : Option Message := do
  let frame ← (encode msg).toOption
  (decode frame).toOption

theorem carry_of_encode {msg : Message} {frame : Bytes} (h : encode msg = .ok frame) :
    carry msg = some msg := by
  have hdecode := (decode_eq_ok_iff_encode frame msg).mpr h
  simp [carry, h, hdecode, Except.toOption]

theorem of_carry {msg msg' : Message} (h : carry msg = some msg') :
    msg' = msg ∧ ∃ frame, encode msg = .ok frame := by
  cases hencode : encode msg with
  | error err =>
      rw [carry, hencode] at h
      cases h
  | ok frame =>
      rw [carry_of_encode hencode] at h
      exact ⟨(Option.some.inj h).symm, frame, rfl⟩

theorem carry_of_writeMessage {io : Except IoErrorKind Unit} {msg : Message}
    (h : writeMessage io msg = .ok ()) : carry msg = some msg := by
  unfold writeMessage at h
  split at h
  · cases h
  · rename_i frame hencode
    exact carry_of_encode hencode

/-- A writer takes the head of its queue, and ends if that cannot be encoded. -/
theorem World.write_cases {platform : Platform} {w w' : World} {s : Nat}
    (taken : w.step platform (.write s) = some w') :
    ∃ session msg queue, w.sessions[s]? = some session ∧ session.joining = true ∧
      session.queue = msg :: queue ∧
      (carry msg = some msg ∧ w' = w.setSession s { session with queue } ∨
        carry msg = none ∧ w' = w.setSession s { session with queue, pc := .closing }) := by
  obtain ⟨session, found, htaken⟩ := Option.bind_eq_some_iff.mp taken
  split at htaken
  · rename_i joining
    split at htaken
    · cases htaken
    · rename_i msg queue head
      refine ⟨session, msg, queue, found, joining, head, ?_⟩
      split at htaken
      · rename_i frame hencode
        cases htaken
        exact .inl ⟨carry_of_encode hencode, rfl⟩
      · rename_i err hencode
        cases htaken
        refine .inr ⟨?_, rfl⟩
        rw [carry, hencode]
        rfl
  · cases htaken

structure LinkedWorld where
  client : ClientWorld := {}
  server : World
  /-- the session at the other end of the link -/
  session : Nat

inductive LinkedAction where
  /-- a step of the client: of a call, or of its pump -/
  | client (act : ClientAction)
  /-- the client connects again, and the server accepts the connection -/
  | reconnect
  /-- the session reads what the link brings -/
  | deliver
  /-- the session's writer writes -/
  | write
  /-- any other step of the server -/
  | server (act : Action)

/-- The steps that the client's own code takes. -/
def ClientAction.atClient : ClientAction → Bool
  | .urb _ | .unlink _ | .control _ | .take _ | .read | .stop => true
  | .reconnect | .receive | .complete _ _ | .reply _ => false

/-- The steps that session `s` takes on its link. -/
def Action.onLink (s : Nat) : Action → Bool
  | .recv s' _ | .write s' => s' = s
  | _ => false

namespace LinkedWorld

/-- What the writer of the session writes next, if its message can be encoded. -/
def outgoing (self : LinkedWorld) : List Arriving :=
  match self.server.sessions[self.session]? with
  | some session => ((session.queue.head?.bind carry).map fun msg => ⟨msg, none⟩).toList
  | none => []

def step (platform : Platform) (self : LinkedWorld) : LinkedAction → Option LinkedWorld
  | .client act =>
      if act.atClient then (self.client.step act).map fun client => { self with client } else none
  | .reconnect => do
      let client ← self.client.step .reconnect
      let server ← self.server.step platform .accept
      some { client, server, session := self.server.sessions.length }
  | .deliver =>
      match self.client.toServer with
      | [] => none
      | sent :: toServer => do
          let server ← self.server.step platform (match carry sent.msg with
            | some msg => .recv self.session msg
            | none => .fail self.session)
          some { self with client := { self.client with toServer }, server }
  | .write => do
      let server ← self.server.step platform (.write self.session)
      some { self with
        client := { self.client with toClient := self.client.toClient ++ self.outgoing }
        server }
  | .server act =>
      if act.onLink self.session then none
      else (self.server.step platform act).map fun server => { self with server }

/-- A client that has just been connected to a server, whatever went on there before. -/
inductive Starting (platform : Platform) : LinkedWorld → Prop where
  | connected {start server : World} {history : History World Action}
      (starting : World.Starting platform start)
      (run : World.Runs platform start history server) :
      Starting platform
        { server := { server with sessions := server.sessions ++ [{}] }
          session := server.sessions.length }

abbrev Runs (platform : Platform) (start : LinkedWorld)
    (history : History LinkedWorld LinkedAction) (w : LinkedWorld) : Prop :=
  Run (step platform) start history w

/-! ## The steps -/

/-- The steps, with their guards. -/
inductive StepCases (platform : Platform) (w : LinkedWorld) : LinkedAction → LinkedWorld → Prop where
  | client {act : ClientAction} {client : ClientWorld} (atClient : act.atClient = true)
      (taken : w.client.step act = some client) :
      StepCases platform w (.client act) { w with client }
  | reconnect {server : World} (down : w.client.pump = none)
      (accepted : w.server.step platform .accept = some server) :
      StepCases platform w .reconnect
        { client := { w.client with pump := some {}, toServer := [], outstanding := [], toClient := [] }
          server
          session := w.server.sessions.length }
  | delivered {sent : Sent} {toServer : List Sent} {server : World}
      (head : w.client.toServer = sent :: toServer) (carried : carry sent.msg = some sent.msg)
      (taken : w.server.step platform (.recv w.session sent.msg) = some server) :
      StepCases platform w .deliver
        { w with client := { w.client with toServer }, server }
  | garbled {sent : Sent} {toServer : List Sent} {server : World}
      (head : w.client.toServer = sent :: toServer) (lost : carry sent.msg = none)
      (taken : w.server.step platform (.fail w.session) = some server) :
      StepCases platform w .deliver
        { w with client := { w.client with toServer }, server }
  | write {server : World} (taken : w.server.step platform (.write w.session) = some server) :
      StepCases platform w .write
        { w with
          client := { w.client with toClient := w.client.toClient ++ w.outgoing }
          server }
  | server {act : Action} {server : World} (offLink : act.onLink w.session = false)
      (taken : w.server.step platform act = some server) :
      StepCases platform w (.server act) { w with server }

theorem step_cases {platform : Platform} {w w' : LinkedWorld} {act : LinkedAction}
    (h : w.step platform act = some w') : StepCases platform w act w' := by
  cases act with
  | client act =>
      dsimp only [step] at h
      split at h
      · rename_i atClient
        obtain ⟨client, taken, rfl⟩ := Option.map_eq_some_iff.mp h
        exact .client atClient taken
      · cases h
  | reconnect =>
      obtain ⟨client, taken, h⟩ := Option.bind_eq_some_iff.mp h
      obtain ⟨server, accepted, h⟩ := Option.bind_eq_some_iff.mp h
      cases h
      cases ClientWorld.step_cases taken with
      | reconnect down => exact .reconnect down accepted
  | deliver =>
      dsimp only [step] at h
      split at h
      · cases h
      · rename_i sent toServer head
        obtain ⟨server, taken, h⟩ := Option.bind_eq_some_iff.mp h
        cases h
        split at taken
        · rename_i msg carried
          obtain rfl := (of_carry carried).1
          exact .delivered head carried taken
        · rename_i lost
          exact .garbled head lost taken
  | write =>
      obtain ⟨server, taken, h⟩ := Option.bind_eq_some_iff.mp h
      cases h
      exact .write taken
  | server act =>
      dsimp only [step] at h
      split at h
      · cases h
      · rename_i offLink
        obtain ⟨server, taken, rfl⟩ := Option.map_eq_some_iff.mp h
        exact .server (Bool.eq_false_iff.mpr offLink) taken

end LinkedWorld

abbrev LinkedHistory : Type := History LinkedWorld LinkedAction

/-! ## The server's part of a run -/

/-- The step of the server in a step of the whole. -/
def serverTransition (t : Transition LinkedWorld LinkedAction) : Option (Transition World Action) :=
  match t.act with
  | .client _ => none
  | .reconnect => some ⟨t.pre.server, .accept, t.post.server⟩
  | .deliver =>
      (t.pre.client.toServer.head?).map fun sent =>
        ⟨t.pre.server, match carry sent.msg with
          | some msg => .recv t.pre.session msg
          | none => .fail t.pre.session, t.post.server⟩
  | .write => some ⟨t.pre.server, .write t.pre.session, t.post.server⟩
  | .server act => some ⟨t.pre.server, act, t.post.server⟩

def serverHistory (history : LinkedHistory) : History World Action :=
  history.filterMap serverTransition

theorem serverTransition_cases {platform : Platform} {w w' : LinkedWorld} {act : LinkedAction}
    (moved : w.step platform act = some w') :
    serverTransition ⟨w, act, w'⟩ = none ∧ w'.server = w.server ∨
      ∃ act', serverTransition ⟨w, act, w'⟩ = some ⟨w.server, act', w'.server⟩ ∧
        w.server.step platform act' = some w'.server := by
  cases LinkedWorld.step_cases moved with
  | client => exact .inl ⟨rfl, rfl⟩
  | reconnect down accepted => exact .inr ⟨_, rfl, accepted⟩
  | delivered head carried taken =>
      refine .inr ⟨_, ?_, taken⟩
      simp only [serverTransition, head, carried, List.head?_cons, Option.map_some]
  | garbled head lost taken =>
      refine .inr ⟨_, ?_, taken⟩
      simp only [serverTransition, head, lost, List.head?_cons, Option.map_some]
  | write taken | server offLink taken => exact .inr ⟨_, rfl, taken⟩

/-- The steps of the server in a run are a run of the server. -/
theorem server_run {platform : Platform} {start w : LinkedWorld} {history : LinkedHistory}
    (run : LinkedWorld.Runs platform start history w) :
    World.Runs platform start.server (serverHistory history) w.server := by
  induction run with
  | nil => exact .nil
  | @snoc history pre post act run moved ih =>
      rw [serverHistory, List.filterMap_cons]
      rcases serverTransition_cases moved with ⟨hnone, hserver⟩ | ⟨act', hsome, taken⟩
      · rw [hnone, hserver]
        exact ih
      · rw [hsome]
        exact .snoc ih taken

end FarBus.Core
