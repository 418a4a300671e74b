/-
  Core/ReplyMeaning.lean --- what a control reply says about the server.

  The reader comes to a reply through several sections, under different locks, and the
  rest of the server goes on in between.  `ReplyMeans` reads each reply, good or bad,
  as a statement about the sections entered since the request was read, and every reply
  of every run is right about them.
-/
import FarBus.Core.Authorization

set_option autoImplicit false

namespace FarBus.Core

open FarBus.Foundation
open FarBus.Protocol

/-- What a transition puts into the token table under `token`. -/
def issuedIn (token : Bytes32) (t : Transition World Action) :
    Option (PeerFingerprint × Instant) :=
  match t.act with
  | .advance s draw =>
      match (t.pre.sessions[s]?).map Session.pc with
      | some (.issuing req) =>
          if draw.token = token then some (req.clientFingerprint, t.pre.now + TOKEN_TTL) else none
      | _ => none
  | _ => none

/-- In `t`, `validate_pairing_pin` refused the PIN hash of the session's request. -/
def PinRefused (platform : Platform) (s : Nat) (req : PairRequest) (t : Transition World Action) :
    Prop :=
  ∃ draw session, t.act = .advance s draw ∧ t.pre.sessions[s]? = some session ∧
    session.pc = .pairing req ∧
    (t.pre.server.validatePairingPin platform req.pinHash t.pre.now draw.pin).1 = false

/-- The PIN hash of the request was accepted, and `token` was drawn for it. -/
def Issued (platform : Platform) (s : Nat) (history : ServerHistory) (req : PairRequest)
    (token : Bytes32) : Prop :=
  Paired platform s history req ∧
    ∃ u ∈ sinceRequest s history, ∃ expires,
      issuedIn token u = some (req.clientFingerprint, expires)

/-- The request does not come from the peer of the latest `Hello`, or its PIN hash was
refused. -/
def NotPaired (platform : Platform) (s : Nat) (history : ServerHistory) (req : PairRequest) :
    Prop :=
  lastRequest s history = some (.pairRequest req) ∧
    (latestHello s history ≠ some req.clientFingerprint ∨
      ∃ u ∈ sinceRequest s history, PinRefused platform s req u)

/-- When the token of the request was looked up, it was not one of the latest `Hello`'s
fingerprint, or it had expired. -/
def Refused (s : Nat) (history : ServerHistory) (req : TokenRequest) : Prop :=
  lastRequest s history = some req.message ∧
    ∃ u ∈ sinceRequest s history, Enters s (.authorizing req) u ∧
      ∀ owner expires, u.pre.server.tokens[req.authToken]? = some (owner, expires) →
        latestHello s history = some owner → ¬ u.pre.now ≤ expires

/-- When the device of the request was looked up, it was not there, or not exported. -/
def NotExported (s : Nat) (history : ServerHistory) (req : AttachRequest) : Prop :=
  ∃ owner, Authorized s history (.attach req) owner ∧
    ∃ u ∈ sinceRequest s history, Enters s (.attaching req.deviceId owner) u ∧
      ∀ found, u.pre.server.devices.get req.deviceId = some found → found.info.exported = false

/-- A message that `serve_session` has no use for. -/
def Unserved : Message → Prop
  | .hello _ | .pairRequest _ | .deviceListRequest _ | .attachRequest _ | .detachRequest _
  | .urbSubmit _ | .urbUnlink _ => False
  | _ => True

/-- What a reply says of the request it answers. -/
def ReplyMeans (platform : Platform) (s : Nat) (history : ServerHistory) : Message → Prop
  | .hello _ => ∃ hello, lastRequest s history = some (.hello hello) ∧
      latestHello s history = some hello.fingerprint
  | .pairResponse response =>
      response.success = true ∧ (∃ req, Issued platform s history req response.authToken) ∨
        response.success = false ∧ ∃ req, NotPaired platform s history req
  | .deviceList list => ∃ req owner, Authorized s history (.devices req) owner ∧
      ∃ u ∈ sinceRequest s history, Enters s .listing u ∧ list = u.pre.server.deviceList
  | .attachResponse response => ∃ req owner, req.deviceId = response.deviceId ∧
      Authorized s history (.attach req) owner ∧
      ∃ u ∈ sinceRequest s history, AttachProcessed s response.deviceId owner u ∧
        ∃ holder, u.post.server.leases.owner response.deviceId = some holder ∧
          (response.success = true ↔ holder = owner)
  | .detach device => ∃ req owner, req.deviceId = device ∧
      Authorized s history (.detach req) owner ∧
      ∃ u ∈ sinceRequest s history, DetachProcessed s device owner u ∧
        u.post.server.leases.owner device ≠ some owner
  | .error _ _ => (∃ req, Refused s history req) ∨ (∃ req, NotExported s history req) ∨
      ∃ msg, lastRequest s history = some msg ∧ Unserved msg
  | _ => True

/-- What a suspension point says of the reply to come. -/
def Pc.Means (platform : Platform) (s : Nat) (history : ServerHistory) : Pc → Prop
  | .paired req token => Issued platform s history req token
  | .replying msg => ReplyMeans platform s history msg
  | _ => True

/-- Whoever asks for a device, afterwards somebody has it. -/
theorem LeaseBook.acquire_held (self : LeaseBook) (device : DeviceId) (peer : PeerFingerprint) :
    ∃ holder, (self.acquire device peer).2.owner device = some holder := by
  rw [LeaseBook.owner_acquire, if_pos rfl]
  cases self.owner device <;> exact ⟨_, rfl⟩

/-! ## Meanings last -/

section

variable {platform : Platform} {start w w' : World} {act : Action}
  {history earlier later : ServerHistory} {t : Transition World Action} {s : Nat}
  {session : Session} {token : Bytes32}

theorem Issued.continues {req : PairRequest} (h : Issued platform s earlier req token)
    (hc : Continues s earlier later) : Issued platform s later req token :=
  ⟨h.1.continues hc, hc.since_exists h.2⟩

theorem NotPaired.continues {req : PairRequest} (h : NotPaired platform s earlier req)
    (hc : Continues s earlier later) : NotPaired platform s later req := by
  refine ⟨hc.request.trans h.1, ?_⟩
  rw [hc.hello]
  exact h.2.imp id hc.since_exists

theorem Refused.continues {req : TokenRequest} (h : Refused s earlier req)
    (hc : Continues s earlier later) : Refused s later req := by
  refine ⟨hc.request.trans h.1, ?_⟩
  rw [hc.hello]
  exact hc.since_exists h.2

theorem NotExported.continues {req : AttachRequest} (h : NotExported s earlier req)
    (hc : Continues s earlier later) : NotExported s later req := by
  obtain ⟨owner, hauth, hsince⟩ := h
  exact ⟨owner, hauth.continues hc, hc.since_exists hsince⟩

theorem ReplyMeans.continues {msg : Message} (h : ReplyMeans platform s earlier msg)
    (hc : Continues s earlier later) : ReplyMeans platform s later msg := by
  unfold ReplyMeans at h ⊢
  cases msg with
  | hello hello =>
      obtain ⟨asked, hrequest, hhello⟩ := h
      exact ⟨asked, hc.request.trans hrequest, hc.hello.trans hhello⟩
  | pairResponse response =>
      rcases h with ⟨hsuccess, req, hissued⟩ | ⟨hfailure, req, hnot⟩
      · exact .inl ⟨hsuccess, req, hissued.continues hc⟩
      · exact .inr ⟨hfailure, req, hnot.continues hc⟩
  | deviceList list =>
      obtain ⟨req, owner, hauth, hsince⟩ := h
      exact ⟨req, owner, hauth.continues hc, hc.since_exists hsince⟩
  | attachResponse response =>
      obtain ⟨req, owner, hdevice, hauth, hsince⟩ := h
      exact ⟨req, owner, hdevice, hauth.continues hc, hc.since_exists hsince⟩
  | detach device =>
      obtain ⟨req, owner, hdevice, hauth, hsince⟩ := h
      exact ⟨req, owner, hdevice, hauth.continues hc, hc.since_exists hsince⟩
  | error code detail =>
      rcases h with ⟨req, hrefused⟩ | ⟨req, hnot⟩ | ⟨msg, hrequest, hunserved⟩
      · exact .inl ⟨req, hrefused.continues hc⟩
      · exact .inr (.inl ⟨req, hnot.continues hc⟩)
      · exact .inr (.inr ⟨msg, hc.request.trans hrequest, hunserved⟩)
  | _ => trivial

theorem Pc.Means.continues {pc : Pc} (h : pc.Means platform s earlier)
    (hc : Continues s earlier later) : pc.Means platform s later := by
  cases pc with
  | paired req token => exact Issued.continues h hc
  | replying msg => exact ReplyMeans.continues h hc
  | _ => trivial

theorem issuedIn_issuing {draw : Draw} {req : PairRequest} (mem : w.sessions[s]? = some session)
    (pc : session.pc = .issuing req) :
    issuedIn token ⟨w, .advance s draw, w'⟩ =
      if draw.token = token then some (req.clientFingerprint, w.now + TOKEN_TTL) else none := by
  simp only [issuedIn, mem, Option.map_some, pc]

/-- A message is read: a reply to it at once says why it gets no other. -/
theorem Session.dispatch_means {server : ServerState} {msg : Message}
    (request : lastRequest s history = some msg)
    (hello : ∀ hello, msg = .hello hello → latestHello s history = some hello.fingerprint)
    (peer : ∀ req, msg = .pairRequest req → session.peer = latestHello s history) :
    (session.dispatch platform server msg).pc.Means platform s history := by
  cases msg with
  | hello hello' => exact ⟨hello', request, hello hello' rfl⟩
  | pairRequest req =>
      simp only [Session.dispatch]
      split
      · trivial
      · rename_i hother
        rw [peer req rfl] at hother
        exact .inr ⟨rfl, req, request, .inl hother⟩
  | urbSubmit urb | urbUnlink unlink =>
      simp only [Session.dispatch]
      split <;> trivial
  | deviceListRequest | attachRequest | detachRequest => trivial
  | error | pairResponse | deviceList | attachResponse | detach | urbComplete | urbUnlinked =>
      exact .inr (.inr ⟨_, request, trivial⟩)

/-- A section is entered: what it found is what the reply will say. -/
theorem Session.AdvanceCases.means {draw : Draw} {outcome : Outcome}
    (entered : session.AdvanceCases platform w.now draw w.server s outcome)
    (provenance : SessionProvenance platform s history session) (mem : w.sessions[s]? = some session)
    (leases : w'.server.leases = outcome.server.leases)
    (means : session.pc.Means platform s history) :
    outcome.session.pc.Means platform s (⟨w, .advance s draw, w'⟩ :: history) := by
  have quiet : ∀ msg, Action.advance s draw ≠ .recv s msg := fun _ => nofun
  have hc : Continues s history (⟨w, .advance s draw, w'⟩ :: history) := .of_quiet history quiet
  have hpeer := provenance.peer_continues hc
  have justified := provenance.pc
  have hhead : (⟨w, .advance s draw, w'⟩ : Transition World Action) ∈
      sinceRequest s (⟨w, .advance s draw, w'⟩ :: history) := by
    rw [sinceRequest_quiet quiet]
    exact List.mem_cons_self
  have henters : ∀ pc, session.pc = pc → Enters s pc ⟨w, .advance s draw, w'⟩ :=
    fun pc heq => ⟨draw, session, rfl, mem, heq⟩
  cases entered with
  | pinRefused pc invalid =>
      rw [pc] at justified
      refine .inr ⟨rfl, _, hc.request.trans justified.1, .inr ⟨_, hhead, ?_⟩⟩
      exact ⟨draw, session, rfl, mem, pc, by rw [invalid]⟩
  | issued pc =>
      rw [pc] at justified
      refine ⟨Paired.continues justified hc, _, hhead, w.now + TOKEN_TTL, ?_⟩
      rw [issuedIn_issuing mem pc, if_pos rfl]
  | paired pc =>
      rw [pc] at means
      exact .inl ⟨rfl, _, Issued.continues means hc⟩
  | tokenUnknown pc unknown =>
      rw [pc] at justified
      refine .inl ⟨_, hc.request.trans justified, _, hhead, henters _ pc, ?_⟩
      intro owner expires known
      rw [unknown] at known
      cases known
  | tokenRefused pc known refused =>
      rw [pc] at justified
      refine .inl ⟨_, hc.request.trans justified, _, hhead, henters _ pc, ?_⟩
      intro owner expires known' hhello unexpired
      rw [known] at known'
      cases known'
      rcases refused with hother | hexpired
      · exact hother (hpeer.trans hhello)
      · exact not_lt_of_ge unexpired hexpired
  | listed pc =>
      rw [pc] at justified
      obtain ⟨req, owner, hauth⟩ := justified
      exact ⟨req, owner, hauth.continues hc, _, hhead, henters _ pc, rfl⟩
  | @attachUnknown device owner pc unknown =>
      rw [pc] at justified
      obtain ⟨req, rfl, hauth⟩ := justified
      refine .inr (.inl ⟨req, owner, hauth.continues hc, _, hhead, henters _ pc, ?_⟩)
      intro found hfound
      rw [hfound, Option.filter_eq_none_iff] at unknown
      exact Bool.eq_false_iff.mpr (unknown found rfl)
  | @attached device owner found pc exported =>
      rw [pc] at justified
      obtain ⟨req, hdevice, hauth⟩ := justified
      obtain ⟨hfound, hexported⟩ := Option.filter_eq_some_iff.mp exported
      obtain ⟨holder, hholder⟩ := LeaseBook.acquire_held w.server.leases device owner
      refine ⟨req, owner, hdevice, hauth.continues hc, _, hhead,
        ⟨henters _ pc, found, hfound, hexported⟩, holder, by rw [leases, hholder], ?_⟩
      have hok := LeaseBook.acquire_ok_iff w.server.leases device owner
      rw [hholder, Option.some.injEq] at hok
      rw [← hok]
      cases (w.server.leases.acquire device owner).1 <;> simp [Except.isOk, Except.toBool]
  | detached pc =>
      rw [pc] at justified
      obtain ⟨req, hdevice, hauth⟩ := justified
      refine ⟨req, _, hdevice, hauth.continues hc, _, hhead, henters _ pc, ?_⟩
      rw [leases, LeaseBook.owner_release]
      split
      · exact (Option.some_ne_none _).symm
      · rename_i hnot
        exact fun heq => hnot ⟨rfl, heq⟩
  | replied | pinAccepted | tokenAccepted | authorizedDevices | authorizedAttach
  | authorizedDetach | tokensExamined | urbLeased | urbRefused | urbAbsent | urbPresent
  | urbSpawned | unlinked => trivial

/-- In every reachable state, what a session is about to say is so. -/
theorem replies_mean (hstart : World.Starting platform start)
    (run : World.Runs platform start history w) :
    ∀ (s : Nat) (session : Session), w.sessions[s]? = some session →
      session.pc.Means platform s history := by
  refine run.history_invariant
    (fun history w => ∀ (s : Nat) (session : Session), w.sessions[s]? = some session →
      session.pc.Means platform s history) ?_ ?_
  · intro s session mem
    cases hstart <;> cases mem
  · intro history pre act post run hpre taken s session' mem'
    rcases World.step_session taken mem' with ⟨-, -, rfl⟩ | ⟨session, mem, hmove⟩
    · trivial
    · have hprovenance := (provenance hstart run).session s session mem
      cases hmove with
      | kept quiet peer principal pc =>
          rw [pc]
          exact (hpre s session mem).continues (.of_quiet history quiet)
      | recv msg hact pc result =>
          subst hact
          rw [result]
          refine Session.dispatch_means (lastRequest_recv rfl) ?_ ?_
          · rintro hello rfl
            exact latestHello_hello rfl
          · rintro req rfl
            rw [hprovenance.peer, latestHello_same]
            intro hello heq
            cases heq
      | advance draw outcome hact entered result =>
          subst hact
          rw [result]
          apply entered.means hprovenance mem ?_ (hpre s session mem)
          rw [World.step_leases taken, entered.leases]
          simp only [World.leaseOp, mem, Option.bind_eq_bind, Option.bind_some]
      | left quiet live peer principal pc =>
          rcases pc with pc | pc | pc <;> rw [pc] <;> trivial

/-- What a session says is so. -/
theorem Enters.means (hstart : World.Starting platform start)
    (run : World.Runs platform start (later ++ t :: earlier) w) {msg : Message}
    (entered : Enters s (.replying msg) t) : ReplyMeans platform s earlier msg := by
  obtain ⟨-, session, -, mem, pc⟩ := entered
  have hmeans := replies_mean hstart run.cut.1 s session mem
  rwa [pc] at hmeans

end

end FarBus.Core
