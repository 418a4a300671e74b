/-
  Gui/AppRuns.lean --- what holds of the window and its threads, however their steps fall.

  Threads send in their own order, and the channel keeps it.  So what an event mentions is
  known when the window takes it: a server is selected when it is in the list, a device is
  attached for a session that was paired.
-/
import FarBus.Gui.App

set_option autoImplicit false

namespace FarBus.Gui

open FarBus.Foundation
open FarBus.Protocol
open FarBus.Core

theorem pairServer_eq_ok {addr : SocketAddr} {fingerprint : PeerFingerprint} {pin : String}
    {paired : Except String Unit} {session : GuiSession}
    (h : pairServer addr fingerprint pin paired = .ok session) :
    paired = .ok () ∧ session = { addr, fingerprint } := by
  unfold pairServer at h
  split at h
  · cases paired with
    | error err => cases h
    | ok _ =>
        cases h
        exact ⟨rfl, rfl⟩
  · cases h

/-! ## Servers that are mentioned -/

/-- The servers an event puts into the list. -/
def listsServers : GuiEvent → List PeerFingerprint
  | .serversFound servers => fingerprints servers
  | _ => []

/-- The servers an event selects. -/
def selectsServers : GuiEvent → List PeerFingerprint
  | .serverSelected fingerprint => [fingerprint]
  | .pairSucceeded _ fingerprint => [fingerprint]
  | _ => []

/-- A server that is listed, or the one of the session that was restored. -/
def Known (restored : Option GuiSession) (state : GuiState) (fingerprint : PeerFingerprint) : Prop :=
  fingerprint ∈ fingerprints state.servers ∨
    restored.map GuiSession.fingerprint = some fingerprint

section

variable {restored : Option GuiSession} {text : AddressText} {state : GuiState} {event : GuiEvent}

theorem mem_fingerprints_serversFound {found : List DiscoveredServer} {fingerprint : PeerFingerprint}
    (mem : fingerprint ∈ fingerprints found) :
    fingerprint ∈ fingerprints (state.apply text (.serversFound found)).servers := by
  have hentry := state.entryOf_serversFound text found mem
  rw [fingerprints, ← entryOf_isSome_iff, hentry, entryOf_isSome_iff, List.map_reverse,
    List.mem_reverse]
  exact mem

/-- What an event lists is known after it, and nothing known before is forgotten. -/
theorem known_apply {fingerprint : PeerFingerprint}
    (h : KnownAfter listsServers (Known restored state) [event] fingerprint) :
    Known restored (state.apply text event) fingerprint := by
  rcases h with (mem | hrestored) | ⟨lister, mem, hlists⟩
  · exact .inl ((state.fingerprints_prefix_apply text event).subset mem)
  · exact .inr hrestored
  · rw [List.mem_singleton.mp mem] at hlists
    cases event with
    | serversFound found => exact .inl (mem_fingerprints_serversFound hlists)
    | _ => cases hlists

theorem selected_pushServer (state : GuiState) (server : DiscoveredServer) :
    server.fingerprint ∈ fingerprints (state.pushServer server).servers := by
  unfold GuiState.pushServer
  split
  · rename_i hany
    exact (GuiState.any_fingerprint_iff _ _).mp hany
  · simp [fingerprints]

/-- An event selects what it mentions, or a server it puts into the list, or nothing. -/
theorem selected_apply {fingerprint : PeerFingerprint}
    (h : (state.apply text event).selected = some fingerprint) :
    state.selected = some fingerprint ∨ fingerprint ∈ selectsServers event ∨
      fingerprint ∈ fingerprints (state.apply text event).servers := by
  cases event with
  | serverSelected selected =>
      obtain rfl : selected = fingerprint := Option.some.inj h
      exact .inr (.inl List.mem_cons_self)
  | pairSucceeded addr selected =>
      obtain rfl : selected = fingerprint := Option.some.inj h
      exact .inr (.inl List.mem_cons_self)
  | manualServerAdded =>
      unfold GuiState.apply at h ⊢
      dsimp only at h ⊢
      split at h
      · rename_i server hserver
        obtain rfl : server.fingerprint = fingerprint := Option.some.inj h
        exact .inr (.inr (selected_pushServer state server))
      · exact .inl h
  | _ => exact .inl h

end

/-! ## The threads mention what is known -/

/-- What a thread will mention. -/
def Thread.Mentions (known : PeerFingerprint → Prop) : Thread → Prop
  | .running (.pair server _) => known server.fingerprint
  | .running _ => True
  | .sending events _ => Grounded listsServers selectsServers known events
  | .serving _ | .ended => True

/-- Everything mentioned is known before it is mentioned. -/
structure Wired (restored : Option GuiSession) (app : App) : Prop where
  selected : ∀ fingerprint, app.state.selected = some fingerprint →
    Known restored app.state fingerprint
  channel : Grounded listsServers selectsServers (Known restored app.state) app.events
  threads : ∀ thread ∈ app.threads,
    thread.Mentions (KnownAfter listsServers (Known restored app.state) app.events)

theorem Thread.Mentions.mono {known known' : PeerFingerprint → Prop} {thread : Thread}
    (h : thread.Mentions known) (hknown : ∀ k, known k → known' k) : thread.Mentions known' := by
  match thread, h with
  | .running (.pair server pin), h => exact hknown _ h
  | .running (.probe _), _ | .running .scan, _ | .running (.load _ _), _ |
    .running (.attach _ _ _), _ | .running (.detach _ _), _ => trivial
  | .sending events afterwards, h => exact Grounded.mono hknown h
  | .serving _, _ | .ended, _ => trivial

namespace Wired

variable {restored : Option GuiSession} {app : App}

theorem post (h : Wired restored app) {event : GuiEvent}
    (hmentions : ∀ k ∈ selectsServers event,
      KnownAfter listsServers (Known restored app.state) app.events k) :
    Wired restored (app.post event) where
  selected := h.selected
  channel := grounded_append_iff.mpr ⟨h.channel, hmentions, trivial⟩
  threads thread mem := (h.threads thread mem).mono fun k hk => by
    exact knownAfter_append_iff.mpr (.inl hk)

theorem postSilent (h : Wired restored app) {event : GuiEvent} (hnone : selectsServers event = []) :
    Wired restored (app.post event) :=
  h.post fun k mem => by
    rw [hnone] at mem
    cases mem

/-- The first event of the channel is taken. -/
theorem drain {event : GuiEvent} {events : List GuiEvent} (h : Wired restored app)
    (arrived : app.events = event :: events) (text : AddressText) :
    Wired restored { app with state := app.state.apply text event, events } := by
  obtain ⟨hselected, hchannel, hthreads⟩ := h
  rw [arrived] at hchannel hthreads
  have hknown : ∀ k, KnownAfter listsServers (Known restored app.state) [event] k →
      Known restored (app.state.apply text event) k := fun k hk => known_apply hk
  refine ⟨?_, hchannel.2.mono hknown, ?_⟩
  · intro fingerprint hafter
    rcases selected_apply hafter with hbefore | hmentions | hlisted
    · exact hknown _ (.inl (hselected _ hbefore))
    · exact hknown _ (.inl (hchannel.1 _ hmentions))
    · exact .inl hlisted
  · intro thread mem
    refine (hthreads thread mem).mono fun k hk => ?_
    exact (knownAfter_cons_iff.mp hk).mono hknown

/-- An event that mentions what is listed is applied at once. -/
theorem edit (h : Wired restored app) {event : GuiEvent}
    (hmentions : ∀ k ∈ selectsServers event, Known restored app.state k) (text : AddressText) :
    Wired restored { app with state := app.state.apply text event } := by
  have hinserted : Wired restored { app with events := event :: app.events } := by
    refine ⟨h.selected, ⟨hmentions, h.channel.mono fun _ hk => .inl hk⟩, ?_⟩
    intro thread mem
    refine (h.threads thread mem).mono fun k hk => knownAfter_cons_iff.mpr ?_
    exact hk.mono fun _ hk => .inl hk
  exact hinserted.drain rfl text

theorem spawn (h : Wired restored app) {job : Job}
    (hmentions : (Thread.running job).Mentions
      (KnownAfter listsServers (Known restored app.state) app.events)) :
    Wired restored (app.spawn job) where
  selected := h.selected
  channel := h.channel
  threads thread mem := by
    rcases List.mem_append.mp mem with mem | mem
    · exact h.threads thread mem
    · rw [List.mem_singleton.mp mem]
      exact hmentions

theorem setThread (h : Wired restored app) (i : Nat) {thread : Thread}
    (hmentions : thread.Mentions (KnownAfter listsServers (Known restored app.state) app.events)) :
    Wired restored (app.setThread i thread) where
  selected := h.selected
  channel := h.channel
  threads other mem := by
    rcases List.mem_or_eq_of_mem_set mem with mem | rfl
    · exact h.threads other mem
    · exact hmentions

theorem sendStop (h : Wired restored app) : Wired restored app.sendStop := by
  unfold App.sendStop
  split
  · exact h
  · exact ⟨h.selected, h.channel, h.threads⟩

theorem start (text : AddressText) (restored : Option GuiSession) :
    Wired restored (App.start text restored) := by
  cases restored with
  | none => exact ⟨nofun, trivial, nofun⟩
  | some session =>
      refine ⟨?_, trivial, ?_⟩
      · intro fingerprint hselected
        exact .inr (congrArg some (Option.some.inj hselected))
      · intro thread mem
        rw [List.mem_singleton.mp mem]
        trivial

/-- What a job sends mentions what is known, if the job does. -/
theorem finish {known : PeerFingerprint → Prop} {job : Job}
    (h : (Thread.running job).Mentions known) (calls : Outcome) :
    (Thread.sending (job.finish calls).1 (job.finish calls).2).Mentions known := by
  cases job with
  | probe host =>
      unfold Job.finish
      dsimp only
      split
      · rename_i server hserver
        refine ⟨nofun, fun k mem => .inr ⟨_, List.mem_cons_self, ?_⟩, trivial⟩
        exact mem
      · exact ⟨nofun, trivial⟩
  | scan =>
      unfold Job.finish
      dsimp only
      split <;> exact ⟨nofun, trivial⟩
  | pair server pin =>
      unfold Job.finish
      dsimp only
      split
      · rename_i session hpaired
        refine ⟨fun k mem => ?_, trivial⟩
        rw [List.mem_singleton.mp mem, (pairServer_eq_ok hpaired).2]
        exact h
      · exact ⟨nofun, trivial⟩
  | load session attached =>
      unfold Job.finish
      dsimp only
      split <;> exact ⟨nofun, trivial⟩
  | attach session id listen =>
      unfold Job.finish
      dsimp only
      split <;> exact ⟨nofun, trivial⟩
  | detach session id =>
      unfold Job.finish
      dsimp only
      split <;> exact ⟨nofun, trivial⟩

/-- A thread sends its next event. -/
theorem send (h : Wired restored app) {i : Nat} {event : GuiEvent} {events : List GuiEvent}
    {afterwards : Afterwards}
    (sends : app.threads[i]? = some (.sending (event :: events) afterwards)) :
    Wired restored ((app.post event).setThread i (.sending events afterwards)) := by
  obtain ⟨hmentions, hevents⟩ := h.threads _ (List.mem_of_getElem? sends)
  refine (h.post hmentions).setThread i ?_
  exact Grounded.mono (fun k hk => knownAfter_append_iff.mpr hk) hevents

theorem step {app' : App} {act : AppAction} (h : Wired restored app)
    (taken : app.step act = some app') : Wired restored app' := by
  cases App.step_cases taken with
  | scan => exact (h.postSilent rfl).spawn trivial
  | addTyped => exact h.postSilent rfl
  | addProbed => exact h.spawn trivial
  | pairShort => exact h.postSilent rfl
  | pairUnselected => exact (h.postSilent rfl).postSilent rfl
  | pair six selected =>
      refine (h.postSilent rfl).spawn (.inl (.inl ?_))
      exact List.mem_map_of_mem (List.mem_of_find?_eq_some selected)
  | attachUnpaired => exact h
  | @attach id session paired =>
      have hspawned : Wired restored
          (app.sendStop.spawn (.attach session id app.sendStop.state.usbipListen)) :=
        h.sendStop.spawn trivial
      exact ⟨hspawned.selected, hspawned.channel, hspawned.threads⟩
  | detachUnpaired => exact h.sendStop
  | detach paired => exact h.sendStop.spawn trivial
  | @edit text event editable =>
      refine h.edit (fun k mem => ?_) text
      cases event with
      | serverSelected fingerprint =>
          rw [List.mem_singleton.mp mem]
          exact .inl (List.contains_iff_mem.mp editable)
      | pairSucceeded => cases editable
      | _ => cases mem
  | drain arrived => exact h.drain arrived _
  | finish runs => exact h.setThread _ (finish (h.threads _ (List.mem_of_getElem? runs)) _)
  | send sends => exact h.send sends
  | ends sent => exact h.setThread _ trivial
  | @loads i session attached sent =>
      have hended : Wired restored (app.setThread i .ended) := h.setThread i trivial
      exact hended.spawn trivial
  | serves sent => exact h.setThread _ trivial
  | stop serves => exact h.setThread _ trivial
  | focus => exact ⟨h.selected, h.channel, h.threads⟩

end Wired

/-! ## What the threads work with -/

/-- The PIN of a pairing is one that the server could have shown, its server is listed, and
nothing listens but on the loopback address. -/
def Thread.Sound (listed : List PeerFingerprint) : Thread → Prop
  | .running (.pair server pin) => isPin pin = true ∧ server.fingerprint ∈ listed
  | .running (.attach _ _ listen) => isLoopback listen = true
  | .running _ => True
  | .sending _ (.serves listen) => isLoopback listen = true
  | .sending _ _ => True
  | .serving listen => isLoopback listen = true
  | .ended => True

structure Sound (app : App) : Prop where
  pin : PinDigits app.state.pin
  usbipListen : app.state.usbipListen = defaultUsbip
  threads : ∀ thread ∈ app.threads, thread.Sound (fingerprints app.state.servers)

theorem usbipListen_apply (text : AddressText) (state : GuiState) (event : GuiEvent) :
    (state.apply text event).usbipListen = state.usbipListen := by
  cases event with
  | manualServerAdded =>
      unfold GuiState.apply GuiState.pushServer
      dsimp only
      split
      · split <;> rfl
      · rfl
  | _ => rfl

theorem isPin_of_pinDigits {pin : String} (h : PinDigits pin) (six : pin.utf8ByteSize = 6) :
    isPin pin = true := by
  rw [isPin, six]
  simpa using h.2

theorem Thread.Sound.mono {listed listed' : List PeerFingerprint} {thread : Thread}
    (h : thread.Sound listed) (hlisted : ∀ k ∈ listed, k ∈ listed') : thread.Sound listed' := by
  match thread, h with
  | .running (.pair server pin), h => exact ⟨h.1, hlisted _ h.2⟩
  | .running (.attach _ _ _), h => exact h
  | .running (.probe _), _ | .running .scan, _ | .running (.load _ _), _ |
    .running (.detach _ _), _ => trivial
  | .sending _ (.serves _), h => exact h
  | .sending _ .ends, _ | .sending _ (.loads _ _), _ => trivial
  | .serving _, h => exact h
  | .ended, _ => trivial

/-- A job that listens has been told to listen where the job was. -/
theorem Thread.Sound.finish {listed : List PeerFingerprint} {job : Job}
    (h : (Thread.running job).Sound listed) (calls : Outcome) :
    (Thread.sending (job.finish calls).1 (job.finish calls).2).Sound listed := by
  cases job with
  | attach session id listen =>
      unfold Job.finish
      dsimp only
      split
      · exact h
      · trivial
  | _ =>
      unfold Job.finish
      dsimp only
      split <;> trivial

theorem Sound.start (text : AddressText) (restored : Option GuiSession) :
    Sound (App.start text restored) := by
  cases restored with
  | none => exact ⟨⟨Nat.zero_le _, fun _ mem => nomatch mem⟩, rfl, nofun⟩
  | some session =>
      refine ⟨⟨Nat.zero_le _, fun _ mem => nomatch mem⟩, rfl, ?_⟩
      intro thread mem
      rw [List.mem_singleton.mp mem]
      trivial

theorem Sound.step {app app' : App} {act : AppAction} (h : Sound app)
    (taken : app.step act = some app') : Sound app' := by
  have hstate : PinDigits app'.state.pin ∧ app'.state.usbipListen = defaultUsbip ∧
      fingerprints app.state.servers <+: fingerprints app'.state.servers := by
    rcases App.new_state taken with hsame | ⟨text, event, happly, -⟩ | hfocus
    · rw [hsame]
      exact ⟨h.pin, h.usbipListen, List.prefix_refl _⟩
    · rw [happly]
      exact ⟨GuiState.pinDigits_apply text event h.pin,
        (usbipListen_apply text _ event).trans h.usbipListen,
        app.state.fingerprints_prefix_apply text event⟩
    · rw [hfocus]
      exact ⟨h.pin, h.usbipListen, List.prefix_refl _⟩
  obtain ⟨hpin, hlisten, hlisted⟩ := hstate
  refine ⟨hpin, hlisten, ?_⟩
  intro thread mem
  refine Thread.Sound.mono ?_ fun k hk => hlisted.subset hk
  rcases App.new_thread taken mem with mem | hnew
  · exact h.threads thread mem
  · cases hnew with
    | pair six selected =>
        exact ⟨isPin_of_pinDigits h.pin six,
          List.mem_map_of_mem (List.mem_of_find?_eq_some selected)⟩
    | attach paired =>
        rw [h.usbipListen]
        rfl
    | finished runs => exact (h.threads _ (List.mem_of_getElem? runs)).finish _
    | @sent i event events afterwards sends =>
        have hsends := h.threads _ (List.mem_of_getElem? sends)
        cases afterwards with
        | serves listen => exact hsends
        | _ => trivial
    | serving sent =>
        have hsent := h.threads _ (List.mem_of_getElem? sent)
        exact hsent
    | _ => trivial

/-! ## One forwarder -/

/-- The threads of an attach, until they fail or end. -/
def Thread.forwards : Thread → Bool
  | .running (.attach _ _ _) => true
  | .sending _ (.serves _) => true
  | .serving _ => true
  | _ => false

/-- Every attach but the last was sent a stop. -/
structure OneForwarder (app : App) : Prop where
  current : ∀ i thread, app.threads[i]? = some thread → thread.forwards = true →
    app.attachStop = some i ∨ i ∈ app.stopped
  inRange : ∀ i, app.attachStop = some i → i < app.threads.length

namespace OneForwarder

variable {app app' : App}

theorem post (h : OneForwarder app) (event : GuiEvent) : OneForwarder (app.post event) :=
  ⟨h.current, h.inRange⟩

theorem sendStop (h : OneForwarder app) :
    OneForwarder app.sendStop ∧ app.sendStop.attachStop = none := by
  unfold App.sendStop
  cases hstop : app.attachStop with
  | none => exact ⟨h, hstop⟩
  | some stop =>
      refine ⟨⟨?_, nofun⟩, rfl⟩
      intro i thread hthread hforwards
      rcases h.current i thread hthread hforwards with hcurrent | hstopped
      · rw [hstop] at hcurrent
        cases hcurrent
        exact .inr (by simp)
      · exact .inr (List.mem_append_left _ hstopped)

/-- A new thread forwards only if its stop is kept. -/
theorem spawn (h : OneForwarder app) {job : Job} (hjob : (Thread.running job).forwards = false) :
    OneForwarder (app.spawn job) where
  current i thread hthread hforwards := by
    rcases Nat.lt_or_ge i app.threads.length with hlt | hge
    · rw [App.spawn, List.getElem?_append_left hlt] at hthread
      exact h.current i thread hthread hforwards
    · have hlast := List.mem_of_getElem? (List.getElem?_append_right hge ▸ hthread)
      rw [List.mem_singleton.mp hlast, hjob] at hforwards
      cases hforwards
  inRange i hi := by
    rw [App.spawn, List.length_append]
    exact Nat.lt_of_lt_of_le (h.inRange i hi) (Nat.le_add_right _ _)

theorem spawnAttach (h : OneForwarder app) (hnone : app.attachStop = none) (job : Job) :
    OneForwarder { app.spawn job with attachStop := some app.threads.length } where
  current i thread hthread hforwards := by
    rcases Nat.lt_trichotomy i app.threads.length with hlt | rfl | hgt
    · dsimp only [App.spawn] at hthread
      rw [List.getElem?_append_left hlt] at hthread
      refine .inr ((h.current i thread hthread hforwards).resolve_left ?_)
      rw [hnone]
      nofun
    · exact .inl rfl
    · dsimp only [App.spawn] at hthread
      rw [List.getElem?_append_right (Nat.le_of_lt hgt), List.getElem?_eq_none] at hthread
      · cases hthread
      · rw [List.length_singleton]
        omega
  inRange i hi := by
    cases hi
    dsimp only [App.spawn]
    rw [List.length_append]
    exact Nat.lt_succ_self _

/-- A thread goes on, and forwards only if it did. -/
theorem setThread (h : OneForwarder app) {i : Nat} {old new : Thread}
    (hold : app.threads[i]? = some old) (hforwards : new.forwards = true → old.forwards = true) :
    OneForwarder (app.setThread i new) where
  current j thread hthread hthreadForwards := by
    dsimp only [App.setThread] at hthread
    rw [List.getElem?_set] at hthread
    split at hthread
    · rename_i hij
      subst hij
      split at hthread
      · cases hthread
        exact h.current i old hold (hforwards hthreadForwards)
      · cases hthread
    · exact h.current j thread hthread hthreadForwards
  inRange j hj := by
    dsimp only [App.setThread]
    rw [List.length_set]
    exact h.inRange j hj

theorem forwards_finish {job : Job} {calls : Outcome}
    (h : (Thread.sending (job.finish calls).1 (job.finish calls).2).forwards = true) :
    (Thread.running job).forwards = true := by
  cases job with
  | attach session id listen => rfl
  | _ =>
      unfold Job.finish at h
      dsimp only at h
      split at h <;> cases h

theorem step {act : AppAction} (h : OneForwarder app) (taken : app.step act = some app') :
    OneForwarder app' := by
  cases App.step_cases taken with
  | scan => exact (h.post _).spawn rfl
  | addTyped => exact h.post _
  | addProbed => exact h.spawn rfl
  | pairShort => exact h.post _
  | pairUnselected => exact (h.post _).post _
  | pair => exact (h.post _).spawn rfl
  | attachUnpaired => exact h
  | attach paired => exact h.sendStop.1.spawnAttach h.sendStop.2 _
  | detachUnpaired => exact h.sendStop.1
  | detach paired => exact h.sendStop.1.spawn rfl
  | edit editable => exact ⟨h.current, h.inRange⟩
  | drain arrived => exact ⟨h.current, h.inRange⟩
  | finish runs => exact h.setThread runs forwards_finish
  | @send i event events afterwards sends =>
      refine (h.post event).setThread sends fun hforwards => ?_
      cases afterwards with
      | serves listen => rfl
      | _ => cases hforwards
  | ends sent => exact h.setThread sent nofun
  | @loads i session attached sent =>
      have hended : OneForwarder (app.setThread i .ended) := h.setThread sent nofun
      exact hended.spawn rfl
  | serves sent => exact h.setThread sent fun _ => rfl
  | stop serves => exact h.setThread serves nofun
  | focus => exact ⟨h.current, h.inRange⟩

end OneForwarder

/-! ## Sessions that were paired -/

/-- A session that was restored, or that a pairing came to. -/
def Paired (restored : Option GuiSession) (history : History App AppAction) (session : GuiSession) :
    Prop :=
  restored = some session ∨
    ∃ t ∈ history, ∃ i calls server pin, t.act = .finish i calls ∧
      t.pre.threads[i]? = some (.running (.pair server pin)) ∧ calls.paired = .ok () ∧
      session = { addr := server.addr, fingerprint := server.fingerprint }

theorem Paired.mono {restored : Option GuiSession} {history : History App AppAction}
    {session : GuiSession} (h : Paired restored history session) (t : Transition App AppAction) :
    Paired restored (t :: history) session :=
  h.imp_right fun ⟨t', mem, hpaired⟩ => ⟨t', List.mem_cons_of_mem _ mem, hpaired⟩

/-- The session an event begins. -/
def GuiEvent.Begins (paired : GuiSession → Prop) : GuiEvent → Prop
  | .pairSucceeded addr fingerprint => paired { addr, fingerprint }
  | _ => True

/-- The sessions a thread works for. -/
def Thread.WorksFor (paired : GuiSession → Prop) : Thread → Prop
  | .running (.load session _) | .running (.attach session _ _) | .running (.detach session _) =>
      paired session
  | .running _ => True
  | .sending events (.loads session _) => (∀ event ∈ events, event.Begins paired) ∧ paired session
  | .sending events _ => ∀ event ∈ events, event.Begins paired
  | .serving _ | .ended => True

/-- Nothing is done for a session that was not paired. -/
structure Provenance (paired : GuiSession → Prop) (app : App) : Prop where
  session : ∀ session, app.state.session = some session → paired session
  events : ∀ event ∈ app.events, event.Begins paired
  threads : ∀ thread ∈ app.threads, thread.WorksFor paired

section

variable {paired paired' : GuiSession → Prop}

theorem GuiEvent.Begins.mono {event : GuiEvent} (h : event.Begins paired)
    (hpaired : ∀ session, paired session → paired' session) : event.Begins paired' := by
  cases event with
  | pairSucceeded addr fingerprint => exact hpaired _ h
  | _ => trivial

theorem Thread.WorksFor.begins {events : List GuiEvent} {afterwards : Afterwards}
    (h : (Thread.sending events afterwards).WorksFor paired) :
    ∀ event ∈ events, event.Begins paired := by
  cases afterwards with
  | loads session attached => exact h.1
  | _ => exact h

theorem Thread.WorksFor.mono {thread : Thread} (h : thread.WorksFor paired)
    (hpaired : ∀ session, paired session → paired' session) : thread.WorksFor paired' := by
  match thread, h with
  | .running (.load _ _), h | .running (.attach _ _ _), h | .running (.detach _ _), h =>
      exact hpaired _ h
  | .running (.probe _), _ | .running .scan, _ | .running (.pair _ _), _ => trivial
  | .sending _ (.loads _ _), h =>
      exact ⟨fun event mem => (h.1 event mem).mono hpaired, hpaired _ h.2⟩
  | .sending _ .ends, h | .sending _ (.serves _), h =>
      exact fun event mem => (h event mem).mono hpaired
  | .serving _, _ | .ended, _ => trivial

theorem session_apply {text : AddressText} {state : GuiState} {event : GuiEvent}
    {session : GuiSession} (h : (state.apply text event).session = some session) :
    state.session = some session ∨ event = .pairSucceeded session.addr session.fingerprint := by
  cases event with
  | pairSucceeded addr fingerprint =>
      cases h
      exact .inr rfl
  | manualServerAdded =>
      unfold GuiState.apply GuiState.pushServer at h
      dsimp only at h
      split at h
      · split at h <;> exact .inl h
      · exact .inl h
  | _ => exact .inl h

/-- What a job leads to is for the session it works for, or for the one it paired. -/
theorem Thread.WorksFor.finish {job : Job} (h : (Thread.running job).WorksFor paired)
    (calls : Outcome)
    (hpairs : ∀ server pin, job = .pair server pin → calls.paired = .ok () →
      paired { addr := server.addr, fingerprint := server.fingerprint }) :
    (Thread.sending (job.finish calls).1 (job.finish calls).2).WorksFor paired := by
  have hsilent : ∀ err, ∀ event ∈ [GuiEvent.failed err], event.Begins paired := by
    intro err event mem
    rw [List.mem_singleton.mp mem]
    trivial
  cases job with
  | pair server pin =>
      unfold Job.finish
      dsimp only
      split
      · rename_i session hpaired
        obtain ⟨hok, rfl⟩ := pairServer_eq_ok hpaired
        have hsession := hpairs server pin rfl hok
        refine ⟨fun event mem => ?_, hsession⟩
        rw [List.mem_singleton.mp mem]
        exact hsession
      · intro event mem
        rw [List.mem_singleton.mp mem]
        trivial
  | detach session id =>
      unfold Job.finish
      dsimp only
      split
      · refine ⟨fun event mem => ?_, h⟩
        rw [List.mem_singleton.mp mem]
        trivial
      · exact hsilent _
  | probe host =>
      unfold Job.finish
      dsimp only
      split
      · intro event mem
        rcases List.mem_cons.mp mem with rfl | mem
        · trivial
        · rw [List.mem_singleton.mp mem]
          trivial
      · exact hsilent _
  | _ =>
      unfold Job.finish
      dsimp only
      split
      · intro event mem
        rw [List.mem_singleton.mp mem]
        trivial
      · exact hsilent _

end

theorem Provenance.start (text : AddressText) (restored : Option GuiSession) :
    Provenance (Paired restored []) (App.start text restored) := by
  cases restored with
  | none => exact ⟨nofun, nofun, nofun⟩
  | some session =>
      refine ⟨?_, nofun, ?_⟩
      · intro session' hsession
        cases hsession
        exact .inl rfl
      · intro thread mem
        rw [List.mem_singleton.mp mem]
        exact Or.inl rfl

theorem Provenance.step {restored : Option GuiSession} {history : History App AppAction}
    {app app' : App} {act : AppAction} (h : Provenance (Paired restored history) app)
    (taken : app.step act = some app') :
    Provenance (Paired restored (⟨app, act, app'⟩ :: history)) app' := by
  have hmono : ∀ session, Paired restored history session →
      Paired restored (⟨app, act, app'⟩ :: history) session := fun _ hpaired => hpaired.mono _
  refine ⟨?_, ?_, ?_⟩
  · intro session hsession
    rcases App.new_state taken with hsame | ⟨text, event, happly, hevent⟩ | hfocus
    · rw [hsame] at hsession
      exact hmono _ (h.session session hsession)
    · rw [happly] at hsession
      rcases session_apply hsession with hsession | rfl
      · exact hmono _ (h.session session hsession)
      · rcases hevent with heditable | mem
        · cases heditable
        · exact hmono _ (h.events _ mem)
    · rw [hfocus] at hsession
      exact hmono _ (h.session session hsession)
  · intro event mem
    rcases App.new_event taken mem with mem | ⟨events, afterwards, sends⟩ | hclick
    · exact (h.events event mem).mono hmono
    · exact ((h.threads _ sends).begins event List.mem_cons_self).mono hmono
    · simp only [App.clickEvents, List.mem_cons, List.not_mem_nil, or_false] at hclick
      rcases hclick with rfl | rfl | rfl | rfl <;> trivial
  · intro thread mem
    rcases App.new_thread taken mem with mem | hnew
    · exact (h.threads thread mem).mono hmono
    · cases hnew with
      | attach paired => exact hmono _ (h.session _ paired)
      | detach paired => exact hmono _ (h.session _ paired)
      | @finished i calls job runs =>
          refine ((h.threads _ (List.mem_of_getElem? runs)).mono hmono).finish calls ?_
          rintro server pin rfl hok
          exact .inr ⟨_, List.mem_cons_self, i, calls, server, pin, rfl, runs, hok, rfl⟩
      | @sent i event events afterwards sends =>
          have hsends := (h.threads _ (List.mem_of_getElem? sends)).mono hmono
          have hbegins := fun event mem => hsends.begins event (List.mem_cons_of_mem _ mem)
          cases afterwards with
          | loads session attached => exact ⟨hbegins, hsends.2⟩
          | _ => exact hbegins
      | load sent =>
          have hsent := (h.threads _ (List.mem_of_getElem? sent)).mono hmono
          exact hsent.2
      | _ => trivial

/-! ## Runs -/

section

variable {text : AddressText} {restored : Option GuiSession} {history : History App AppAction}
  {app : App}

/-- In every run a server that is selected is listed, or it is the one of the session that was
restored, so that without one the window never asks to select a server that is selected; and
it pairs with listed servers only, by a PIN that `pair_server` takes for one. -/
theorem app_pairs_listed_servers (run : App.Runs text restored history app) :
    (∀ fingerprint, app.state.selected = some fingerprint → Known restored app.state fingerprint) ∧
    (restored = none → app.state.selected.isSome = true → app.selectedServer.isSome = true) ∧
    ∀ server pin, .running (.pair server pin) ∈ app.threads →
      server.fingerprint ∈ fingerprints app.state.servers ∧
      ∀ paired, pairServer server.addr server.fingerprint pin paired =
        paired.map fun _ => { addr := server.addr, fingerprint := server.fingerprint } := by
  have hwired := run.invariant (Wired restored) (Wired.start text restored)
    fun _ _ _ h taken => h.step taken
  have hsound := run.invariant Sound (Sound.start text restored) fun _ _ _ h taken => h.step taken
  refine ⟨hwired.selected, ?_, ?_⟩
  · rintro rfl hsome
    obtain ⟨fingerprint, hselected⟩ := Option.isSome_iff_exists.mp hsome
    rcases hwired.selected _ hselected with hlisted | hrestored
    · obtain ⟨server, mem, hserver⟩ := List.mem_map.mp hlisted
      rw [App.selectedServer, List.find?_isSome]
      exact ⟨server, mem, by rw [hselected, hserver, beq_self_eq_true]⟩
    · cases hrestored
  · intro server pin mem
    obtain ⟨hpin, hlisted⟩ := hsound.threads _ mem
    exact ⟨hlisted, fun paired => if_pos hpin⟩

/-- In every run, of the attaches that were not sent a stop at most one is left, waiting for
the server or listening; and what it listens on is a loopback address, which `attach_device`
never refuses. -/
theorem app_one_loopback_forwarder (run : App.Runs text restored history app) :
    (∀ i j thread thread', app.threads[i]? = some thread → app.threads[j]? = some thread' →
      thread.forwards = true → thread'.forwards = true → i ∉ app.stopped → j ∉ app.stopped →
      i = j) ∧
    (∀ session id listen, .running (.attach session id listen) ∈ app.threads →
      ∀ attached, attachDevice listen attached = attached) ∧
    ∀ listen, .serving listen ∈ app.threads → isLoopback listen = true := by
  have hsound := run.invariant Sound (Sound.start text restored) fun _ _ _ h taken => h.step taken
  have hstart : OneForwarder (App.start text restored) := by
    cases restored with
    | none => exact ⟨nofun, nofun⟩
    | some session =>
        refine ⟨fun i thread hthread hforwards => ?_, nofun⟩
        rw [List.mem_singleton.mp (List.mem_of_getElem? hthread)] at hforwards
        cases hforwards
  have hone := run.invariant OneForwarder hstart fun _ _ _ h taken => h.step taken
  refine ⟨?_, ?_, fun listen mem => hsound.threads _ mem⟩
  · intro i j thread thread' hi hj hforwards hforwards' hnot hnot'
    have hcurrent := (hone.current i thread hi hforwards).resolve_right hnot
    have hcurrent' := (hone.current j thread' hj hforwards').resolve_right hnot'
    exact Option.some.inj (hcurrent.symm.trans hcurrent')
  · intro session id listen mem attached
    have hloopback : isLoopback listen = true := hsound.threads _ mem
    rw [attachDevice, loopbackUsbip, if_pos hloopback]

/-- In every run the session of the window is the one that was restored or one that a pairing
came to, and so is every session that a thread loads devices, attaches or detaches for. -/
theorem app_sessions_paired (run : App.Runs text restored history app) :
    (∀ session, app.state.session = some session → Paired restored history session) ∧
    ∀ thread ∈ app.threads, thread.WorksFor (Paired restored history) := by
  have h := run.history_invariant (fun history app => Provenance (Paired restored history) app)
    (Provenance.start text restored) fun _ _ _ _ _ h taken => h.step taken
  exact ⟨h.session, h.threads⟩

end

namespace Sample

def beacon : Beacon := (Vector.replicate 32 7, (server "farbus-pi" 7).addr, "farbus-pi")

def mouse : DeviceInfo where
  id := 1
  busId := "1-1"
  vid := 0x046d
  pid := 0xc534
  usbClass := 0
  speed := .full
  product := "mouse"
  exported := true
  interfaces := []

def calls : Outcome where
  text := offline
  handshake _ := .error "offline"
  found := .ok [beacon]
  paired := .ok ()
  listed := .ok [mouse]
  attached := .ok "1-1"
  detached := .ok ()

/-- Scan, select, pair, attach. -/
def clicks : List AppAction :=
  [.scan, .finish 0 calls, .send 0, .drain offline, .drain offline,
    .edit offline (.serverSelected (Vector.replicate 32 7)), .edit offline (.pinChanged "123456"),
    .pair, .finish 1 calls, .send 1, .send 1, .drain offline, .drain offline,
    .finish 2 calls, .send 2, .drain offline, .attach 1, .finish 3 calls, .send 3, .send 3]

/-- The window after the clicks, and how it got there. -/
def clicked : History App AppAction × App := replay App.step clicks ([], App.start offline none)

theorem clicked_run : App.Runs offline none clicked.1 clicked.2 := Run.nil.replay clicks

end Sample

theorem sample_app_pairs_listed_servers : Sample.clicked.2.selectedServer.isSome = true :=
  (app_pairs_listed_servers Sample.clicked_run).2.1 rfl (by decide)

theorem sample_app_one_loopback_forwarder :
    Sample.clicked.2.threads[3]? = some (.serving defaultUsbip) ∧ isLoopback defaultUsbip = true := by
  have hserving : Sample.clicked.2.threads[3]? = some (.serving defaultUsbip) := by rfl
  exact ⟨hserving,
    (app_one_loopback_forwarder Sample.clicked_run).2.2 _ (List.mem_of_getElem? hserving)⟩

theorem sample_app_sessions_paired :
    Paired none Sample.clicked.1 { addr := Sample.beacon.2.1, fingerprint := Sample.beacon.1 } :=
  (app_sessions_paired Sample.clicked_run).1 _ rfl

end FarBus.Gui
