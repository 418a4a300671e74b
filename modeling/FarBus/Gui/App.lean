/-
  Gui/App.lean --- the window and its threads, `FarBusApp` of `crates/farbus-gui/src/app.rs`.

  A click changes the window at once or starts a thread; a thread runs an action, then sends
  what came of it, event by event, through one channel.  Every update of the window takes the
  events that have arrived.  An event may arrive between that and a click, so here events are
  taken one at a time and clicks may come between them.

  What is drawn, and the tray, are not modelled.
-/
import FarBus.Foundation.Grounded
import FarBus.Foundation.Transition
import FarBus.Gui.Actions

set_option autoImplicit false

namespace FarBus.Gui

open FarBus.Foundation
open FarBus.Protocol
open FarBus.Core

/-- An action that a thread runs. -/
inductive Job where
  | probe (host : String)
  | scan
  | pair (server : DiscoveredServer) (pin : String)
  | load (session : GuiSession) (attached : Option DeviceId)
  | attach (session : GuiSession) (id : DeviceId) (listen : SocketAddr)
  | detach (session : GuiSession) (id : DeviceId)

/-- What the calls come to that the actions await. -/
structure Outcome where
  text : AddressText
  handshake : SocketAddr → Except String PeerFingerprint
  found : Except String (List Beacon)
  paired : Except String Unit
  listed : Except String (List DeviceInfo)
  /-- with the bus id of the device -/
  attached : Except String String
  detached : Except String Unit

/-- What a thread does when it has sent its events. -/
inductive Afterwards where
  | ends
  /-- `spawn_load` -/
  | loads (session : GuiSession) (attached : Option DeviceId)
  /-- `serve_usbip_forward`, until it returns or is stopped -/
  | serves (listen : SocketAddr)

/-- The events a thread sends when its action is done, and what it does then. -/
def Job.finish (calls : Outcome) : Job → List GuiEvent × Afterwards
  | .probe host =>
      match probeServer calls.text host calls.handshake with
      | .ok server => ([.serversFound [server], .serverSelected server.fingerprint], .ends)
      | .error err => ([.failed err], .ends)
  | .scan =>
      match scanServers calls.found with
      | .ok servers => ([.serversFound servers], .ends)
      | .error err => ([.failed err], .ends)
  | .pair server pin =>
      match pairServer server.addr server.fingerprint pin calls.paired with
      | .ok session => ([.pairSucceeded session.addr session.fingerprint], .loads session none)
      | .error err => ([.pairRejected err], .ends)
  | .load _ attached =>
      match calls.listed with
      | .ok devices => ([.devicesLoaded (loadDevices devices attached)], .ends)
      | .error err => ([.failed err], .ends)
  | .attach _ id listen =>
      match attachDevice listen calls.attached with
      | .ok busId => ([.attachSucceeded id busId], .serves listen)
      | .error err => ([.failed err], .ends)
  | .detach session id =>
      match calls.detached with
      | .ok () => ([.detachSucceeded id], .loads session none)
      | .error err => ([.failed err], .ends)

inductive Thread where
  | running (job : Job)
  | sending (events : List GuiEvent) (afterwards : Afterwards)
  | serving (listen : SocketAddr)
  | ended

structure App where
  state : GuiState := GuiState.new
  /-- the channel -/
  events : List GuiEvent := []
  /-- all threads that were started; those of an attach hold the receiver of a stop -/
  threads : List Thread := []
  /-- `attach_stop`: the thread whose sender it holds -/
  attachStop : Option Nat := none
  /-- the threads that were sent a stop -/
  stopped : List Nat := []

inductive AppAction where
  | scan
  | addManual
  | pair
  | attach (id : DeviceId)
  | detach (id : DeviceId)
  /-- an event that a widget applies at once -/
  | edit (text : AddressText) (event : GuiEvent)
  /-- an event is taken from the channel -/
  | drain (text : AddressText)
  /-- the action of a thread is done -/
  | finish (i : Nat) (calls : Outcome)
  /-- a thread sends its next event, or goes on after the last -/
  | send (i : Nat)
  /-- a thread is stopped, or its listener has returned -/
  | stop (i : Nat)
  /-- `take_focus_request` -/
  | focus

namespace App

def post (self : App) (event : GuiEvent) : App := { self with events := self.events ++ [event] }

def spawn (self : App) (job : Job) : App :=
  { self with threads := self.threads ++ [.running job] }

def setThread (self : App) (i : Nat) (thread : Thread) : App :=
  { self with threads := self.threads.set i thread }

/-- `if let Some(stop) = self.attach_stop.take() { let _ = stop.send(()); }` -/
def sendStop (self : App) : App :=
  match self.attachStop with
  | none => self
  | some i => { self with attachStop := none, stopped := self.stopped ++ [i] }

/-- The server `pair` looks for. -/
def selectedServer (self : App) : Option DiscoveredServer :=
  self.state.servers.find? fun server => some server.fingerprint == self.state.selected

/-- The events that widgets apply: the texts, and the servers that are listed. -/
def editable (self : App) : GuiEvent → Bool
  | .manualHostChanged _ | .manualFingerprintChanged _ | .pinChanged _ => true
  | .serverSelected fingerprint => (fingerprints self.state.servers).contains fingerprint
  | .trayHidden | .trayShown => true
  | _ => false

/-- `FarBusApp::new`, with the session that was restored. -/
def start (text : AddressText) (restored : Option GuiSession) : App :=
  match restored with
  | none => {}
  | some session =>
      { state := GuiState.new.apply text (.pairSucceeded session.addr session.fingerprint)
        threads := [.running (.load session none)] }

def step (self : App) : AppAction → Option App
  | .scan => some ((self.post .scanStarted).spawn .scan)
  | .addManual =>
      if self.state.manualFingerprint ≠ "" then some (self.post .manualServerAdded)
      else some (self.spawn (.probe self.state.manualHost))
  | .pair =>
      let self := self.post .pairStarted
      if self.state.pin.utf8ByteSize ≠ 6 then some self
      else
        match self.selectedServer with
        | none => some (self.post (.failed "select a server first"))
        | some server => some (self.spawn (.pair server self.state.pin))
  | .attach id =>
      if self.state.devices.any fun device => device.id == id && !device.attached then
        match self.state.session with
        | none => some self
        | some session =>
            let self := self.sendStop
            some { self.spawn (.attach session id self.state.usbipListen) with
              attachStop := some self.threads.length }
      else none
  | .detach id =>
      if self.state.devices.any fun device => device.id == id && device.attached then
        let self := self.sendStop
        match self.state.session with
        | none => some self
        | some session => some (self.spawn (.detach session id))
      else none
  | .edit text event =>
      if self.editable event then some { self with state := self.state.apply text event } else none
  | .drain text =>
      match self.events with
      | [] => none
      | event :: events => some { self with state := self.state.apply text event, events }
  | .finish i calls =>
      match self.threads[i]? with
      | some (.running job) =>
          let (events, afterwards) := job.finish calls
          some (self.setThread i (.sending events afterwards))
      | _ => none
  | .send i =>
      match self.threads[i]? with
      | some (.sending (event :: events) afterwards) =>
          some ((self.post event).setThread i (.sending events afterwards))
      | some (.sending [] .ends) => some (self.setThread i .ended)
      | some (.sending [] (.loads session attached)) =>
          some ((self.setThread i .ended).spawn (.load session attached))
      | some (.sending [] (.serves listen)) => some (self.setThread i (.serving listen))
      | _ => none
  | .stop i =>
      match self.threads[i]? with
      | some (.serving _) => some (self.setThread i .ended)
      | _ => none
  | .focus => some { self with state := { self.state with focusRequested := false } }

abbrev Runs (text : AddressText) (restored : Option GuiSession) (history : History App AppAction)
    (app : App) : Prop :=
  Run step (start text restored) history app

/-! ## The steps -/

/-- The steps, with their guards. -/
inductive StepCases (app : App) : AppAction → App → Prop where
  | scan : StepCases app .scan ((app.post .scanStarted).spawn .scan)
  | addTyped : StepCases app .addManual (app.post .manualServerAdded)
  | addProbed : StepCases app .addManual (app.spawn (.probe app.state.manualHost))
  | pairShort : StepCases app .pair (app.post .pairStarted)
  | pairUnselected :
      StepCases app .pair ((app.post .pairStarted).post (.failed "select a server first"))
  | pair {server : DiscoveredServer} (six : app.state.pin.utf8ByteSize = 6)
      (selected : app.selectedServer = some server) :
      StepCases app .pair ((app.post .pairStarted).spawn (.pair server app.state.pin))
  | attachUnpaired {id : DeviceId} : StepCases app (.attach id) app
  | attach {id : DeviceId} {session : GuiSession} (paired : app.state.session = some session) :
      StepCases app (.attach id)
        { app.sendStop.spawn (.attach session id app.sendStop.state.usbipListen) with
          attachStop := some app.sendStop.threads.length }
  | detachUnpaired {id : DeviceId} : StepCases app (.detach id) app.sendStop
  | detach {id : DeviceId} {session : GuiSession} (paired : app.sendStop.state.session = some session) :
      StepCases app (.detach id) (app.sendStop.spawn (.detach session id))
  | edit {text : AddressText} {event : GuiEvent} (editable : app.editable event = true) :
      StepCases app (.edit text event) { app with state := app.state.apply text event }
  | drain {text : AddressText} {event : GuiEvent} {events : List GuiEvent}
      (arrived : app.events = event :: events) :
      StepCases app (.drain text) { app with state := app.state.apply text event, events }
  | finish {i : Nat} {calls : Outcome} {job : Job} (runs : app.threads[i]? = some (.running job)) :
      StepCases app (.finish i calls)
        (app.setThread i (.sending (job.finish calls).1 (job.finish calls).2))
  | send {i : Nat} {event : GuiEvent} {events : List GuiEvent} {afterwards : Afterwards}
      (sends : app.threads[i]? = some (.sending (event :: events) afterwards)) :
      StepCases app (.send i) ((app.post event).setThread i (.sending events afterwards))
  | ends {i : Nat} (sent : app.threads[i]? = some (.sending [] .ends)) :
      StepCases app (.send i) (app.setThread i .ended)
  | loads {i : Nat} {session : GuiSession} {attached : Option DeviceId}
      (sent : app.threads[i]? = some (.sending [] (.loads session attached))) :
      StepCases app (.send i) ((app.setThread i .ended).spawn (.load session attached))
  | serves {i : Nat} {listen : SocketAddr}
      (sent : app.threads[i]? = some (.sending [] (.serves listen))) :
      StepCases app (.send i) (app.setThread i (.serving listen))
  | stop {i : Nat} {listen : SocketAddr} (serves : app.threads[i]? = some (.serving listen)) :
      StepCases app (.stop i) (app.setThread i .ended)
  | focus : StepCases app .focus { app with state := { app.state with focusRequested := false } }

theorem step_cases {app app' : App} {act : AppAction} (taken : app.step act = some app') :
    StepCases app act app' := by
  cases act with
  | scan =>
      cases taken
      exact .scan
  | addManual =>
      dsimp only [step] at taken
      split at taken
      · cases taken
        exact .addTyped
      · cases taken
        exact .addProbed
  | pair =>
      dsimp only [step] at taken
      split at taken
      · cases taken
        exact .pairShort
      · rename_i hsize
        split at taken
        · cases taken
          exact .pairUnselected
        · rename_i server selected
          cases taken
          exact .pair (not_not.mp hsize) selected
  | attach id =>
      dsimp only [step] at taken
      split at taken
      · split at taken
        · cases taken
          exact .attachUnpaired
        · rename_i session paired
          cases taken
          exact .attach paired
      · cases taken
  | detach id =>
      dsimp only [step] at taken
      split at taken
      · split at taken
        · cases taken
          exact .detachUnpaired
        · rename_i session paired
          cases taken
          exact .detach paired
      · cases taken
  | edit text event =>
      dsimp only [step] at taken
      split at taken
      · rename_i editable
        cases taken
        exact .edit editable
      · cases taken
  | drain text =>
      dsimp only [step] at taken
      split at taken
      · cases taken
      · rename_i event events arrived
        cases taken
        exact .drain arrived
  | finish i calls =>
      dsimp only [step] at taken
      split at taken
      · rename_i job runs
        cases taken
        exact .finish runs
      · cases taken
  | send i =>
      dsimp only [step] at taken
      split at taken
      · rename_i event events afterwards sends
        cases taken
        exact .send sends
      · rename_i sent
        cases taken
        exact .ends sent
      · rename_i session attached sent
        cases taken
        exact .loads sent
      · rename_i listen sent
        cases taken
        exact .serves sent
      · cases taken
  | stop i =>
      dsimp only [step] at taken
      split at taken
      · rename_i listen serves
        cases taken
        exact .stop serves
      · cases taken
  | focus =>
      cases taken
      exact .focus

/-! ## What a step brings -/

/-- The threads that are there after a step and were not before. -/
inductive NewThread (app : App) : AppAction → Thread → Prop where
  | scan : NewThread app .scan (.running .scan)
  | probe : NewThread app .addManual (.running (.probe app.state.manualHost))
  | pair {server : DiscoveredServer} (six : app.state.pin.utf8ByteSize = 6)
      (selected : app.selectedServer = some server) :
      NewThread app .pair (.running (.pair server app.state.pin))
  | attach {id : DeviceId} {session : GuiSession} (paired : app.state.session = some session) :
      NewThread app (.attach id) (.running (.attach session id app.state.usbipListen))
  | detach {id : DeviceId} {session : GuiSession} (paired : app.state.session = some session) :
      NewThread app (.detach id) (.running (.detach session id))
  | finished {i : Nat} {calls : Outcome} {job : Job} (runs : app.threads[i]? = some (.running job)) :
      NewThread app (.finish i calls) (.sending (job.finish calls).1 (job.finish calls).2)
  | sent {i : Nat} {event : GuiEvent} {events : List GuiEvent} {afterwards : Afterwards}
      (sends : app.threads[i]? = some (.sending (event :: events) afterwards)) :
      NewThread app (.send i) (.sending events afterwards)
  | load {i : Nat} {session : GuiSession} {attached : Option DeviceId}
      (sent : app.threads[i]? = some (.sending [] (.loads session attached))) :
      NewThread app (.send i) (.running (.load session attached))
  | serving {i : Nat} {listen : SocketAddr}
      (sent : app.threads[i]? = some (.sending [] (.serves listen))) :
      NewThread app (.send i) (.serving listen)
  | ended {act : AppAction} : NewThread app act .ended

@[simp] theorem sendStop_state (app : App) : app.sendStop.state = app.state := by
  unfold sendStop
  split <;> rfl

@[simp] theorem sendStop_threads (app : App) : app.sendStop.threads = app.threads := by
  unfold sendStop
  split <;> rfl

@[simp] theorem sendStop_events (app : App) : app.sendStop.events = app.events := by
  unfold sendStop
  split <;> rfl

variable {app app' : App} {act : AppAction}

theorem mem_spawn {job : Job} {thread : Thread} (mem : thread ∈ (app.spawn job).threads) :
    thread ∈ app.threads ∨ thread = .running job :=
  (List.mem_append.mp mem).imp_right List.mem_singleton.mp

/-- A thread that is there after a step was there before, or the step brought it. -/
theorem new_thread (taken : app.step act = some app') {thread : Thread}
    (mem : thread ∈ app'.threads) : thread ∈ app.threads ∨ NewThread app act thread := by
  have hset : ∀ {i : Nat} {new : Thread}, thread ∈ app.threads.set i new →
      NewThread app act new → thread ∈ app.threads ∨ NewThread app act thread := by
    intro i new hmem hnew
    rcases List.mem_or_eq_of_mem_set hmem with hmem | rfl
    · exact .inl hmem
    · exact .inr hnew
  cases step_cases taken with
  | scan =>
      rcases mem_spawn mem with mem | rfl
      · exact .inl mem
      · exact .inr .scan
  | addTyped => exact .inl mem
  | addProbed =>
      rcases mem_spawn mem with mem | rfl
      · exact .inl mem
      · exact .inr .probe
  | pairShort => exact .inl mem
  | pairUnselected => exact .inl mem
  | pair six selected =>
      rcases mem_spawn mem with mem | rfl
      · exact .inl mem
      · exact .inr (.pair six selected)
  | attachUnpaired => exact .inl mem
  | attach paired =>
      rcases mem_spawn mem with mem | rfl
      · exact .inl (app.sendStop_threads ▸ mem)
      · rw [sendStop_state]
        exact .inr (.attach paired)
  | detachUnpaired => exact .inl (app.sendStop_threads ▸ mem)
  | detach paired =>
      rcases mem_spawn mem with mem | rfl
      · exact .inl (app.sendStop_threads ▸ mem)
      · exact .inr (.detach (app.sendStop_state ▸ paired))
  | edit editable => exact .inl mem
  | drain arrived => exact .inl mem
  | finish runs => exact hset mem (.finished runs)
  | send sends => exact hset mem (.sent sends)
  | ends sent => exact hset mem .ended
  | loads sent =>
      rcases mem_spawn mem with mem | rfl
      · exact hset mem .ended
      · exact .inr (.load sent)
  | serves sent => exact hset mem (.serving sent)
  | stop serves => exact hset mem .ended
  | focus => exact .inl mem

/-- The events that a click sends. -/
def clickEvents : List GuiEvent :=
  [.scanStarted, .manualServerAdded, .pairStarted, .failed "select a server first"]

/-- An event that is in the channel after a step was there before, a thread sent it, or it is
one that a click sends. -/
theorem new_event (taken : app.step act = some app') {event : GuiEvent}
    (mem : event ∈ app'.events) :
    event ∈ app.events ∨
      (∃ events afterwards, Thread.sending (event :: events) afterwards ∈ app.threads) ∨
      event ∈ clickEvents := by
  have hpost : ∀ {sent : GuiEvent}, sent ∈ clickEvents → event ∈ (app.post sent).events →
      event ∈ app.events ∨ event ∈ clickEvents := by
    intro sent hclick hmem
    rcases List.mem_append.mp hmem with hmem | hmem
    · exact .inl hmem
    · rw [List.mem_singleton.mp hmem]
      exact .inr hclick
  cases step_cases taken with
  | scan => exact (hpost (by decide) mem).imp_right .inr
  | addTyped => exact (hpost (by decide) mem).imp_right .inr
  | pairShort => exact (hpost (by decide) mem).imp_right .inr
  | pair six selected => exact (hpost (by decide) mem).imp_right .inr
  | pairUnselected =>
      rcases List.mem_append.mp mem with mem | mem
      · exact (hpost (by decide) mem).imp_right .inr
      · rw [List.mem_singleton.mp mem]
        exact .inr (.inr (by decide))
  | attach paired | detachUnpaired | detach paired => exact .inl (app.sendStop_events ▸ mem)
  | drain arrived =>
      rw [arrived]
      exact .inl (List.mem_cons_of_mem _ mem)
  | send sends =>
      rcases List.mem_append.mp mem with mem | mem
      · exact .inl mem
      · rw [List.mem_singleton.mp mem]
        exact .inr (.inl ⟨_, _, List.mem_of_getElem? sends⟩)
  | _ => exact .inl mem

/-- A step leaves the state of the window alone, applies an event to it that a widget made or
that was in the channel, or takes the request for the focus. -/
theorem new_state (taken : app.step act = some app') :
    app'.state = app.state ∨
      (∃ text event, app'.state = app.state.apply text event ∧
        (app.editable event = true ∨ event ∈ app.events)) ∨
      app'.state = { app.state with focusRequested := false } := by
  cases step_cases taken with
  | edit editable => exact .inr (.inl ⟨_, _, rfl, .inl editable⟩)
  | drain arrived =>
      refine .inr (.inl ⟨_, _, rfl, .inr ?_⟩)
      rw [arrived]
      exact List.mem_cons_self
  | focus => exact .inr (.inr rfl)
  | attach paired | detachUnpaired | detach paired => exact .inl app.sendStop_state
  | _ => exact .inl rfl

end App

end FarBus.Gui
