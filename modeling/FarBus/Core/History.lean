/-
  Core/History.lean --- where the things a session relies on came from.

  A session acts on what it read in earlier steps: the fingerprint of a `Hello`, a
  token lookup, a lease lookup.  `Provenance` says of every reachable state that
  each of these can be traced back through the history: the principal to a pairing
  or a token, and each suspension point to the request being served and to the
  checks made since that request was read.
-/
import FarBus.Core.SessionStep

set_option autoImplicit false

namespace FarBus.Core

open FarBus.Foundation
open FarBus.Protocol

abbrev ServerHistory : Type := History World Action

/-- The fingerprint of the session's latest `Hello`. -/
def latestHello (s : Nat) : ServerHistory → Option PeerFingerprint
  | [] => none
  | t :: earlier =>
      match t.act with
      | .recv s' (.hello hello) =>
          if s' = s then some hello.fingerprint else latestHello s earlier
      | _ => latestHello s earlier

/-- The message the session read last. -/
def lastRequest (s : Nat) : ServerHistory → Option Message
  | [] => none
  | t :: earlier =>
      match t.act with
      | .recv s' msg => if s' = s then some msg else lastRequest s earlier
      | _ => lastRequest s earlier

/-- What happened since the session read its last message. -/
def sinceRequest (s : Nat) : ServerHistory → ServerHistory
  | [] => []
  | t :: earlier =>
      match t.act with
      | .recv s' _ => if s' = s then [] else t :: sinceRequest s earlier
      | _ => t :: sinceRequest s earlier

section

variable {s : Nat} {t : Transition World Action} {earlier : ServerHistory}

theorem lastRequest_recv {msg : Message} (h : t.act = .recv s msg) :
    lastRequest s (t :: earlier) = some msg := by
  simp [lastRequest, h]

theorem lastRequest_quiet (h : ∀ msg, t.act ≠ .recv s msg) :
    lastRequest s (t :: earlier) = lastRequest s earlier := by
  rw [lastRequest]
  split
  · rename_i s' msg hact
    rw [if_neg]
    intro heq
    exact h msg (heq ▸ hact)
  · rfl

theorem sinceRequest_quiet (h : ∀ msg, t.act ≠ .recv s msg) :
    sinceRequest s (t :: earlier) = t :: sinceRequest s earlier := by
  rw [sinceRequest]
  split
  · rename_i s' msg hact
    rw [if_neg]
    intro heq
    exact h msg (heq ▸ hact)
  · rfl

theorem latestHello_hello {hello : Hello} (h : t.act = .recv s (.hello hello)) :
    latestHello s (t :: earlier) = some hello.fingerprint := by
  simp [latestHello, h]

theorem latestHello_same (h : ∀ hello, t.act ≠ .recv s (.hello hello)) :
    latestHello s (t :: earlier) = latestHello s earlier := by
  rw [latestHello]
  split
  · rename_i s' hello hact
    rw [if_neg]
    intro heq
    exact h hello (heq ▸ hact)
  · rfl

end

/-! ## What a transition was -/

/-- In `t`, session `s` took the section that `pc` stands before. -/
def Enters (s : Nat) (pc : Pc) (t : Transition World Action) : Prop :=
  ∃ draw session, t.act = .advance s draw ∧ t.pre.sessions[s]? = some session ∧ session.pc = pc

/-- In `t`, `validate_pairing_pin` accepted the PIN hash of the session's request. -/
def PinAccepted (platform : Platform) (s : Nat) (req : PairRequest) (t : Transition World Action) :
    Prop :=
  ∃ draw session, t.act = .advance s draw ∧ t.pre.sessions[s]? = some session ∧
    session.pc = .pairing req ∧
    (t.pre.server.validatePairingPin platform req.pinHash t.pre.now draw.pin).1 = true

/-- In `t`, the token of the session's request was in the table, mapped to `owner` and
unexpired. -/
def TokenAccepted (s : Nat) (req : TokenRequest) (owner : PeerFingerprint)
    (t : Transition World Action) : Prop :=
  Enters s (.authorizing req) t ∧
    ∃ expires, t.pre.server.tokens[req.authToken]? = some (owner, expires) ∧ t.pre.now ≤ expires

/-- In `t`, the token table was examined for a URB and held an unexpired token of
`owner`. -/
def TokenActive (s : Nat) (urb : UrbSubmit) (owner : PeerFingerprint)
    (t : Transition World Action) : Prop :=
  Enters s (.urbTokens urb owner) t ∧
    ∃ (token : Bytes32) (expires : Instant),
      t.pre.server.tokens[token]? = some (owner, expires) ∧ t.pre.now ≤ expires

/-- In `t`, the lease book was examined for a URB and its device was leased to
`owner`. -/
def LeaseChecked (s : Nat) (urb : UrbSubmit) (owner : PeerFingerprint)
    (t : Transition World Action) : Prop :=
  Enters s (.urbLease urb owner true) t ∧
    t.pre.server.leases.owner urb.deviceId = some owner

/-- In `t`, an attach request for a device that was present and exported went through
the lease book. -/
def AttachProcessed (s : Nat) (device : DeviceId) (owner : PeerFingerprint)
    (t : Transition World Action) : Prop :=
  Enters s (.attaching device owner) t ∧
    ∃ found, t.pre.server.devices.get device = some found ∧ found.info.exported = true

/-- In `t`, a detach request went through the lease book. -/
def DetachProcessed (s : Nat) (device : DeviceId) (owner : PeerFingerprint)
    (t : Transition World Action) : Prop :=
  Enters s (.detaching device owner) t

/-- In `t`, `msg` joined the outgoing queue of session `s`. -/
def Sends (s : Nat) (msg : Message) (t : Transition World Action) : Prop :=
  ∃ session session', t.pre.sessions[s]? = some session ∧ t.post.sessions[s]? = some session' ∧
    session'.queue = session.queue ++ [msg]

/-- In `t`, session `s` admitted `urb`: it spawned `complete_session_urb` for it. -/
def Admits (s : Nat) (urb : UrbSubmit) (t : Transition World Action) : Prop :=
  (∃ draw, t.act = .advance s draw) ∧
    (t.post.tasks[t.pre.tasks.length]?).map (fun task => task.urb) = some urb

/-! ## Justifications -/

/-- The session is serving `req`, whose token was found good for the fingerprint of
its latest `Hello`. -/
def Authorized (s : Nat) (history : ServerHistory) (req : TokenRequest) (owner : PeerFingerprint) :
    Prop :=
  lastRequest s history = some req.message ∧ latestHello s history = some owner ∧
    ∃ t ∈ sinceRequest s history, TokenAccepted s req owner t

/-- The session is serving `req`, sent under the fingerprint of its latest `Hello`,
and the PIN hash was accepted. -/
def Paired (platform : Platform) (s : Nat) (history : ServerHistory) (req : PairRequest) : Prop :=
  lastRequest s history = some (.pairRequest req) ∧
    latestHello s history = some req.clientFingerprint ∧
    ∃ t ∈ sinceRequest s history, PinAccepted platform s req t

/-- The session is serving `urb`, for which an active token and a lease of `owner` were
found. -/
def Admissible (s : Nat) (history : ServerHistory) (urb : UrbSubmit) (owner : PeerFingerprint) :
    Prop :=
  lastRequest s history = some (.urbSubmit urb) ∧
    (∃ t ∈ sinceRequest s history, TokenActive s urb owner t) ∧
    ∃ t ∈ sinceRequest s history, LeaseChecked s urb owner t

/-- What a reply says about the request it answers. -/
def ReplyJustified (s : Nat) (history : ServerHistory) : Message → Prop
  | .deviceList _ => ∃ req owner, Authorized s history (.devices req) owner
  | .attachResponse response => response.success = true →
      ∃ req owner, req.deviceId = response.deviceId ∧ Authorized s history (.attach req) owner ∧
        ∃ t ∈ sinceRequest s history, AttachProcessed s response.deviceId owner t ∧
          t.post.server.leases.owner response.deviceId = some owner
  | .detach device =>
      ∃ req owner, req.deviceId = device ∧ Authorized s history (.detach req) owner ∧
        ∃ t ∈ sinceRequest s history, DetachProcessed s device owner t
  | _ => True

/-- What a suspension point says about the past. -/
def Justified (platform : Platform) (s : Nat) (history : ServerHistory) : Pc → Prop
  | .replying msg => ReplyJustified s history msg
  | .pairing req => lastRequest s history = some (.pairRequest req) ∧
      latestHello s history = some req.clientFingerprint
  | .issuing req => Paired platform s history req
  | .paired req _ => Paired platform s history req
  | .authorizing req => lastRequest s history = some req.message
  | .authorized req owner => Authorized s history req owner
  | .listing => ∃ req owner, Authorized s history (.devices req) owner
  | .attaching device owner =>
      ∃ req, req.deviceId = device ∧ Authorized s history (.attach req) owner
  | .detaching device owner =>
      ∃ req, req.deviceId = device ∧ Authorized s history (.detach req) owner
  | .urbTokens urb _ => lastRequest s history = some (.urbSubmit urb)
  | .urbLease urb owner active => lastRequest s history = some (.urbSubmit urb) ∧
      (active = true → ∃ t ∈ sinceRequest s history, TokenActive s urb owner t)
  | .urbPresence urb owner => Admissible s history urb owner
  | .urbSlot urb owner _ => Admissible s history urb owner
  | .reading | .unlinkLease _ _ | .draining | .closing | .ended => True

/-- The principal was set by a pairing or by a request with a good token. -/
def Authenticated (platform : Platform) (s : Nat) (history : ServerHistory)
    (peer : PeerFingerprint) : Prop :=
  ∃ later t earlier, history = later ++ t :: earlier ∧
    ((∃ req token, Enters s (.paired req token) t ∧ req.clientFingerprint = peer ∧
        Paired platform s earlier req) ∨
      ∃ req, Enters s (.authorized req peer) t ∧ Authorized s earlier req peer)

/-- The peer a suspension point acts for. -/
def Pc.actsFor : Pc → Option PeerFingerprint
  | .attaching _ owner | .detaching _ owner | .urbTokens _ owner | .urbLease _ owner _
  | .urbPresence _ owner | .urbSlot _ owner _ | .unlinkLease _ owner => some owner
  | _ => none

/-- Everything a session relies on can be traced back. -/
structure SessionProvenance (platform : Platform) (s : Nat) (history : ServerHistory)
    (session : Session) : Prop where
  peer : session.peer = latestHello s history
  principal : ∀ peer, session.principal = some peer → Authenticated platform s history peer
  pc : Justified platform s history session.pc
  actsFor : ∀ owner, session.pc.actsFor = some owner → session.principal = some owner

structure Provenance (platform : Platform) (history : ServerHistory) (w : World) : Prop where
  session : ∀ s session, w.sessions[s]? = some session →
    SessionProvenance platform s history session
  unborn : ∀ s, w.sessions[s]? = none → latestHello s history = none

/-! ## Justifications last -/

/-- `later` continues `earlier` without session `s` reading a message. -/
structure Continues (s : Nat) (earlier later : ServerHistory) : Prop where
  request : lastRequest s later = lastRequest s earlier
  hello : latestHello s later = latestHello s earlier
  since : ∀ t, t ∈ sinceRequest s earlier → t ∈ sinceRequest s later

theorem Continues.of_quiet {s : Nat} {t : Transition World Action} (history : ServerHistory)
    (h : ∀ msg, t.act ≠ .recv s msg) : Continues s history (t :: history) where
  request := lastRequest_quiet h
  hello := latestHello_same fun hello => h (.hello hello)
  since u hu := by
    rw [sinceRequest_quiet h]
    exact List.mem_cons_of_mem t hu

section

variable {platform : Platform} {s : Nat} {earlier later : ServerHistory}

theorem Continues.since_exists (h : Continues s earlier later)
    {P : Transition World Action → Prop} (hP : ∃ t ∈ sinceRequest s earlier, P t) :
    ∃ t ∈ sinceRequest s later, P t := by
  obtain ⟨t, ht, hPt⟩ := hP
  exact ⟨t, h.since t ht, hPt⟩

theorem Authorized.continues {req : TokenRequest} {owner : PeerFingerprint}
    (h : Authorized s earlier req owner) (hc : Continues s earlier later) :
    Authorized s later req owner :=
  ⟨hc.request.trans h.1, hc.hello.trans h.2.1, hc.since_exists h.2.2⟩

theorem Paired.continues {req : PairRequest} (h : Paired platform s earlier req)
    (hc : Continues s earlier later) : Paired platform s later req :=
  ⟨hc.request.trans h.1, hc.hello.trans h.2.1, hc.since_exists h.2.2⟩

theorem Admissible.continues {urb : UrbSubmit} {owner : PeerFingerprint}
    (h : Admissible s earlier urb owner) (hc : Continues s earlier later) :
    Admissible s later urb owner :=
  ⟨hc.request.trans h.1, hc.since_exists h.2.1, hc.since_exists h.2.2⟩

theorem ReplyJustified.continues {msg : Message} (h : ReplyJustified s earlier msg)
    (hc : Continues s earlier later) : ReplyJustified s later msg := by
  unfold ReplyJustified at h ⊢
  cases msg with
  | deviceList list =>
      obtain ⟨req, owner, hauth⟩ := h
      exact ⟨req, owner, hauth.continues hc⟩
  | attachResponse response =>
      intro hsuccess
      obtain ⟨req, owner, hdevice, hauth, hattached⟩ := h hsuccess
      exact ⟨req, owner, hdevice, hauth.continues hc, hc.since_exists hattached⟩
  | detach device =>
      obtain ⟨req, owner, hdevice, hauth, hdetached⟩ := h
      exact ⟨req, owner, hdevice, hauth.continues hc, hc.since_exists hdetached⟩
  | _ => trivial

theorem Justified.continues {pc : Pc} (h : Justified platform s earlier pc)
    (hc : Continues s earlier later) : Justified platform s later pc := by
  cases pc with
  | replying msg => exact ReplyJustified.continues h hc
  | pairing req => exact ⟨hc.request.trans h.1, hc.hello.trans h.2⟩
  | issuing req => exact Paired.continues h hc
  | paired req token => exact Paired.continues h hc
  | authorizing req => exact hc.request.trans h
  | authorized req owner => exact Authorized.continues h hc
  | listing =>
      obtain ⟨req, owner, hauth⟩ := h
      exact ⟨req, owner, hauth.continues hc⟩
  | attaching device owner =>
      obtain ⟨req, hdevice, hauth⟩ := h
      exact ⟨req, hdevice, hauth.continues hc⟩
  | detaching device owner =>
      obtain ⟨req, hdevice, hauth⟩ := h
      exact ⟨req, hdevice, hauth.continues hc⟩
  | urbTokens urb owner => exact hc.request.trans h
  | urbLease urb owner active =>
      exact ⟨hc.request.trans h.1, fun hactive => hc.since_exists (h.2 hactive)⟩
  | urbPresence urb owner => exact Admissible.continues h hc
  | urbSlot urb owner presence => exact Admissible.continues h hc
  | reading | unlinkLease | draining | closing | ended => trivial

theorem Authenticated.continues {history : ServerHistory} {peer : PeerFingerprint}
    (h : Authenticated platform s history peer) (t : Transition World Action) :
    Authenticated platform s (t :: history) peer := by
  obtain ⟨later, u, earlier, rfl, hset⟩ := h
  exact ⟨t :: later, u, earlier, rfl, hset⟩

end

/-! ## The invariant -/

section

variable {platform : Platform} {s : Nat} {history : ServerHistory} {w w' : World} {act : Action}
  {session session' : Session}

/-- A token that was good when the section was entered. -/
theorem Authenticated.of_token {t : Transition World Action} {req : TokenRequest}
    {owner : PeerFingerprint} (entered : Enters s (.authorized req owner) t)
    (authorized : Authorized s history req owner) :
    Authenticated platform s (t :: history) owner :=
  ⟨[], t, history, rfl, .inr ⟨req, entered, authorized⟩⟩

theorem SessionProvenance.peer_continues {later : ServerHistory}
    (h : SessionProvenance platform s history session) (hc : Continues s history later) :
    session.peer = latestHello s later := by
  rw [hc.hello, h.peer]

theorem SessionProvenance.principal_cons (h : SessionProvenance platform s history session)
    (t : Transition World Action) :
    ∀ peer, session.principal = some peer → Authenticated platform s (t :: history) peer :=
  fun peer hpeer => (h.principal peer hpeer).continues t

theorem SessionProvenance.kept (h : SessionProvenance platform s history session)
    (quiet : ∀ msg, act ≠ .recv s msg) (peer : session'.peer = session.peer)
    (principal : session'.principal = session.principal) (pc : session'.pc = session.pc) :
    SessionProvenance platform s (⟨w, act, w'⟩ :: history) session' := by
  have hc : Continues s history (⟨w, act, w'⟩ :: history) := .of_quiet history quiet
  refine ⟨peer.trans (h.peer_continues hc), ?_, ?_, ?_⟩
  · rw [principal]
    exact h.principal_cons _
  · rw [pc]
    exact h.pc.continues hc
  · intro owner howner
    rw [pc] at howner
    rw [principal]
    exact h.actsFor owner howner

theorem SessionProvenance.left (h : SessionProvenance platform s history session)
    (quiet : ∀ msg, act ≠ .recv s msg) (peer : session'.peer = session.peer)
    (principal : session'.principal = session.principal)
    (pc : session'.pc = .draining ∨ session'.pc = .closing ∨ session'.pc = .ended) :
    SessionProvenance platform s (⟨w, act, w'⟩ :: history) session' := by
  have hc : Continues s history (⟨w, act, w'⟩ :: history) := .of_quiet history quiet
  refine ⟨peer.trans (h.peer_continues hc), ?_, ?_, ?_⟩
  · rw [principal]
    exact h.principal_cons _
  · rcases pc with hpc | hpc | hpc <;> rw [hpc] <;> trivial
  · intro owner howner
    rcases pc with hpc | hpc | hpc <;> rw [hpc] at howner <;> cases howner

/-- A message is read: the pc is justified by the message alone. -/
theorem SessionProvenance.recv (h : SessionProvenance platform s history session) {msg : Message}
    {server : ServerState} (taken : act = .recv s msg) :
    SessionProvenance platform s (⟨w, act, w'⟩ :: history)
      (session.dispatch platform server msg) := by
  subst taken
  have hrequest : lastRequest s (⟨w, .recv s msg, w'⟩ :: history) = some msg :=
    lastRequest_recv rfl
  have hprincipal := h.principal_cons ⟨w, .recv s msg, w'⟩
  have hpeer : (∀ hello, msg ≠ .hello hello) →
      session.peer = latestHello s (⟨w, .recv s msg, w'⟩ :: history) := by
    intro hne
    rw [h.peer, latestHello_same]
    intro hello heq
    exact hne hello (Action.recv.inj heq).2
  cases msg with
  | hello hello =>
      exact ⟨(latestHello_hello rfl).symm, hprincipal, trivial, nofun⟩
  | pairRequest req =>
      have hpeer' := hpeer nofun
      simp only [Session.dispatch]
      split
      · rename_i hsame
        rw [hpeer'] at hsame
        exact ⟨hpeer', hprincipal, ⟨hrequest, hsame⟩, nofun⟩
      · exact ⟨hpeer', hprincipal, trivial, nofun⟩
  | deviceListRequest req => exact ⟨hpeer nofun, hprincipal, hrequest, nofun⟩
  | attachRequest req => exact ⟨hpeer nofun, hprincipal, hrequest, nofun⟩
  | detachRequest req => exact ⟨hpeer nofun, hprincipal, hrequest, nofun⟩
  | urbSubmit urb =>
      simp only [Session.dispatch]
      split
      · exact ⟨hpeer nofun, hprincipal, trivial, nofun⟩
      · rename_i owner howner
        refine ⟨hpeer nofun, hprincipal, hrequest, ?_⟩
        intro owner' heq
        cases heq
        exact howner
  | urbUnlink unlink =>
      simp only [Session.dispatch]
      split
      · exact ⟨hpeer nofun, hprincipal, trivial, nofun⟩
      · rename_i owner howner
        refine ⟨hpeer nofun, hprincipal, trivial, ?_⟩
        intro owner' heq
        cases heq
        exact howner
  | error | detach | deviceList | pairResponse | attachResponse | urbComplete | urbUnlinked =>
      exact ⟨hpeer nofun, hprincipal, trivial, nofun⟩

/-- A section is entered: what it checked is now part of the history. -/
theorem SessionProvenance.advance (h : SessionProvenance platform s history session) {draw : Draw}
    {outcome : Outcome} (found : w.sessions[s]? = some session)
    (entered : session.AdvanceCases platform w.now draw w.server s outcome)
    (hleases : w'.server.leases = outcome.server.leases) :
    SessionProvenance platform s (⟨w, .advance s draw, w'⟩ :: history) outcome.session := by
  have hquiet : ∀ msg, Action.advance s draw ≠ .recv s msg := fun _ => nofun
  have hc : Continues s history (⟨w, .advance s draw, w'⟩ :: history) := .of_quiet history hquiet
  have hpeer := h.peer_continues hc
  have hprincipal := h.principal_cons ⟨w, .advance s draw, w'⟩
  have hpc := h.pc
  have hhead : (⟨w, .advance s draw, w'⟩ : Transition World Action) ∈
      sinceRequest s (⟨w, .advance s draw, w'⟩ :: history) := by
    rw [sinceRequest_quiet hquiet]
    exact List.mem_cons_self
  have henters : ∀ pc, session.pc = pc → Enters s pc ⟨w, .advance s draw, w'⟩ :=
    fun pc heq => ⟨draw, session, rfl, found, heq⟩
  have hsame : ∀ owner, session.pc.actsFor = some owner → session.principal = some owner :=
    h.actsFor
  cases entered with
  | replied pc room => exact ⟨hpeer, hprincipal, trivial, nofun⟩
  | pinAccepted pc valid =>
      rw [pc] at hpc
      refine ⟨hpeer, hprincipal, ⟨hc.request.trans hpc.1, hc.hello.trans hpc.2, _, hhead, ?_⟩, nofun⟩
      exact ⟨draw, session, rfl, found, pc, by rw [valid]⟩
  | pinRefused pc invalid => exact ⟨hpeer, hprincipal, trivial, nofun⟩
  | issued pc =>
      rw [pc] at hpc
      exact ⟨hpeer, hprincipal, Paired.continues hpc hc, nofun⟩
  | paired pc =>
      rw [pc] at hpc
      refine ⟨hpeer, ?_, trivial, nofun⟩
      intro peer heq
      cases heq
      exact ⟨[], _, history, rfl, .inl ⟨_, _, henters _ pc, rfl, hpc⟩⟩
  | tokenUnknown pc unknown => exact ⟨hpeer, hprincipal, trivial, nofun⟩
  | tokenRefused pc known refused => exact ⟨hpeer, hprincipal, trivial, nofun⟩
  | tokenAccepted pc known peer unexpired =>
      rw [pc] at hpc
      refine ⟨hpeer, hprincipal, ⟨hc.request.trans hpc, ?_, _, hhead, ?_⟩, nofun⟩
      · rw [← hpeer, peer]
      · exact ⟨henters _ pc, _, known, unexpired⟩
  | authorizedDevices pc =>
      rw [pc] at hpc
      refine ⟨hpeer, ?_, ⟨_, _, Authorized.continues hpc hc⟩, nofun⟩
      intro peer heq
      cases heq
      exact .of_token (henters _ pc) hpc
  | authorizedAttach pc =>
      rw [pc] at hpc
      refine ⟨hpeer, ?_, ⟨_, rfl, Authorized.continues hpc hc⟩, fun _ howner => howner⟩
      intro peer heq
      cases heq
      exact .of_token (henters _ pc) hpc
  | authorizedDetach pc =>
      rw [pc] at hpc
      refine ⟨hpeer, ?_, ⟨_, rfl, Authorized.continues hpc hc⟩, fun _ howner => howner⟩
      intro peer heq
      cases heq
      exact .of_token (henters _ pc) hpc
  | listed pc =>
      rw [pc] at hpc
      obtain ⟨req, owner, hauth⟩ := hpc
      exact ⟨hpeer, hprincipal, ⟨req, owner, hauth.continues hc⟩, nofun⟩
  | attachUnknown pc unknown => exact ⟨hpeer, hprincipal, trivial, nofun⟩
  | attached pc exported =>
      rw [pc] at hpc
      obtain ⟨req, hdevice, hauth⟩ := hpc
      refine ⟨hpeer, hprincipal, ?_, nofun⟩
      intro hsuccess
      refine ⟨req, _, hdevice, hauth.continues hc, _, hhead, ⟨henters _ pc, ?_⟩, ?_⟩
      · obtain ⟨hfound, hexported⟩ := Option.filter_eq_some_iff.mp exported
        exact ⟨_, hfound, hexported⟩
      · rw [hleases]
        apply (LeaseBook.acquire_ok_iff _ _ _).mp
        simp only at hsuccess
        cases hacquire : (w.server.leases.acquire _ _).1 with
        | ok => rfl
        | error err =>
            rw [hacquire] at hsuccess
            cases hsuccess
  | detached pc =>
      rw [pc] at hpc
      obtain ⟨req, hdevice, hauth⟩ := hpc
      exact ⟨hpeer, hprincipal, ⟨req, _, hdevice, hauth.continues hc, _, hhead, henters _ pc⟩, nofun⟩
  | @tokensExamined urb owner pc =>
      rw [pc] at hpc hsame
      refine ⟨hpeer, hprincipal, ⟨hc.request.trans hpc, ?_⟩, hsame⟩
      intro hactive
      obtain ⟨⟨token, entry⟩, hentry, hgood⟩ := List.any_eq_true.mp hactive
      rw [Bool.and_eq_true, decide_eq_true_eq, decide_eq_true_eq] at hgood
      have hlookup := Std.ExtTreeMap.mem_toList_iff_getElem?_eq_some.mp hentry
      refine ⟨_, hhead, henters _ pc, token, entry.2, ?_, hgood.2⟩
      rw [hlookup, ← hgood.1]
  | urbLeased pc leased =>
      rw [pc] at hpc hsame
      refine ⟨hpeer, hprincipal, ?_, hsame⟩
      exact ⟨hc.request.trans hpc.1, hc.since_exists (hpc.2 rfl), _, hhead, henters _ pc, leased⟩
  | urbRefused pc refused => exact ⟨hpeer, hprincipal, trivial, nofun⟩
  | urbAbsent pc absent => exact ⟨hpeer, hprincipal, trivial, nofun⟩
  | urbPresent pc present =>
      rw [pc] at hpc hsame
      exact ⟨hpeer, hprincipal, Admissible.continues hpc hc, hsame⟩
  | urbSpawned pc free => exact ⟨hpeer, hprincipal, trivial, nofun⟩
  | unlinked pc => exact ⟨hpeer, hprincipal, trivial, nofun⟩

theorem Provenance.step (h : Provenance platform history w)
    (taken : w.step platform act = some w') :
    Provenance platform (⟨w, act, w'⟩ :: history) w' := by
  refine ⟨?_, ?_⟩
  · intro s session' found'
    rcases World.step_session taken found' with ⟨rfl, hnone, rfl⟩ | ⟨session, found, hmove⟩
    · refine ⟨?_, nofun, trivial, nofun⟩
      rw [latestHello_same, h.unborn s hnone]
      intro hello
      nofun
    · have hsession := h.session s session found
      cases hmove with
      | kept quiet peer principal pc => exact hsession.kept quiet peer principal pc
      | left quiet live peer principal pc => exact hsession.left quiet peer principal pc
      | recv msg act pc result =>
          rw [result]
          exact hsession.recv act
      | advance draw outcome act entered result =>
          subst act
          rw [result]
          apply hsession.advance found entered
          rw [World.step_leases taken, entered.leases]
          simp only [World.leaseOp, found, Option.bind_eq_bind, Option.bind_some]
  · intro s hnone
    have hnone' : w.sessions[s]? = none := by
      rw [List.getElem?_eq_none_iff] at hnone ⊢
      exact Nat.le_trans (World.step_sessions_length taken) hnone
    rw [latestHello_same, h.unborn s hnone']
    intro hello heq
    dsimp only at heq
    subst heq
    cases World.step_cases taken with
    | recv msg found pc =>
        rw [hnone'] at found
        cases found

/-- Everything every session relies on can be traced back, in every run. -/
theorem provenance {start : World} (hstart : World.Starting platform start)
    (run : World.Runs platform start history w) : Provenance platform history w := by
  refine run.history_invariant (Provenance platform) ?_ ?_
  · refine ⟨?_, fun _ _ => rfl⟩
    intro s session found
    cases hstart <;> cases found
  · intro history pre act post _ hpre taken
    exact hpre.step taken

end

end FarBus.Core
