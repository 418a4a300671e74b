/-
  Core/Noninterference.lean --- what a session that never authenticates learns and
  changes: nothing.

  Two servers have the same hostname, fingerprint and PIN, and differ in the rest.
  Their sessions get the same messages, at the same times and with the same draws;
  no token that is presented is a key of either table, and no pairing succeeds.
  Then every section goes the same way on both, because none that looks at the
  inventory, the lease book or the token table of the server finds anything there.
-/
import FarBus.Core.Completions
import FarBus.Core.SessionEnd

set_option autoImplicit false

namespace FarBus.Core

open FarBus.Foundation
open FarBus.Protocol

/-! ## A session outside -/

/-- A session that has not been authenticated stands here; the token it presents is
known to neither server. -/
def Pc.Outside (a b : ServerState) : Pc → Prop
  | .reading | .replying _ | .pairing _ | .draining | .closing | .ended => True
  | .authorizing req => a.tokens[req.authToken]? = none ∧ b.tokens[req.authToken]? = none
  | _ => False

structure Session.Outside (a b : ServerState) (session : Session) : Prop where
  principal : session.principal = none
  pc : session.pc.Outside a b

/-- A server with this PIN at this time, and its sessions. -/
def World.outside (server : ServerState) (pin : PairingPin) (now : Instant)
    (sessions : List Session) : World :=
  { now, server := { server with pin }, sessions }

/-- Two servers that are alike to their sessions. -/
def Alike (a b : ServerState) (w w' : World) : Prop :=
  ∃ pin now sessions, (∀ session ∈ sessions, session.Outside a b) ∧
    w = World.outside a pin now sessions ∧ w' = World.outside b pin now sessions

/-- What an outsider may do: the inventory is not refreshed, the tokens presented are
unknown to both servers, and no pairing succeeds. -/
structure Outsider (platform : Platform) (a b : ServerState) (t : Transition World Action) :
    Prop where
  unrefreshed : ∀ scanned, t.act ≠ .refreshHostDevices scanned
  unknown : ∀ (s : Nat) (req : TokenRequest), t.act = .recv s req.message →
    a.tokens[req.authToken]? = none ∧ b.tokens[req.authToken]? = none
  unpaired : ∀ s req, ¬ PinAccepted platform s req t

section

variable {platform : Platform} {a b : ServerState} {pin : PairingPin} {now : Instant}
  {sessions : List Session} {session : Session}

/-- Validating a PIN does not look at the rest of the server. -/
theorem validatePairingPin_alike (hfingerprint : a.fingerprint = b.fingerprint)
    {candidateHash : Bytes32} {draw : PinDraw} {success : Bool} {server : ServerState}
    (h : ServerState.validatePairingPin platform { a with pin } candidateHash now draw =
      (success, server)) :
    ∃ pin', server = { a with pin := pin' } ∧
      ServerState.validatePairingPin platform { b with pin } candidateHash now draw =
        (success, { b with pin := pin' }) := by
  unfold ServerState.validatePairingPin at h ⊢
  dsimp only at h ⊢
  rw [← hfingerprint]
  split at h
  · cases h
    exact ⟨_, rfl, rfl⟩
  · split at h
    · cases h
      exact ⟨_, rfl, rfl⟩
    · cases h
      exact ⟨_, rfl, rfl⟩

/-- What a message does to a session depends on the hostname and the fingerprint of the
server only. -/
theorem Session.dispatch_alike (hhostname : a.hostname = b.hostname)
    (hfingerprint : a.fingerprint = b.fingerprint) (msg : Message) :
    session.dispatch platform { b with pin } msg = session.dispatch platform { a with pin } msg := by
  unfold Session.dispatch pairResponse
  dsimp only
  rw [hhostname, hfingerprint]

theorem Session.Outside.dispatch (h : session.Outside a b) (server : ServerState) {msg : Message}
    (unknown : ∀ req : TokenRequest, msg = req.message →
      a.tokens[req.authToken]? = none ∧ b.tokens[req.authToken]? = none) :
    (session.dispatch platform server msg).Outside a b := by
  refine ⟨(Session.dispatch_principal session platform server msg).trans h.principal, ?_⟩
  cases msg with
  | pairRequest req =>
      unfold Session.dispatch
      dsimp only
      split <;> exact trivial
  | deviceListRequest req => exact unknown (.devices req) rfl
  | attachRequest req => exact unknown (.attach req) rfl
  | detachRequest req => exact unknown (.detach req) rfl
  | urbSubmit urb =>
      unfold Session.dispatch
      dsimp only
      rw [h.principal]
      exact trivial
  | urbUnlink unlink =>
      unfold Session.dispatch
      dsimp only
      rw [h.principal]
      exact trivial
  | _ => exact trivial

/-- The sections of a session outside go the same way on both servers. -/
theorem Session.Outside.advance (h : session.Outside a b)
    (hfingerprint : a.fingerprint = b.fingerprint) {draw : Draw} {index : Nat} {outcome : Outcome}
    (unpaired : ∀ req, session.pc = .pairing req →
      (ServerState.validatePairingPin platform { a with pin } req.pinHash now draw.pin).1 ≠ true)
    (taken : session.advance platform now draw { a with pin } index = some outcome) :
    ∃ pin' session', session'.Outside a b ∧
      outcome = ⟨{ a with pin := pin' }, session', none⟩ ∧
      session.advance platform now draw { b with pin } index =
        some ⟨{ b with pin := pin' }, session', none⟩ := by
  obtain ⟨hprincipal, houtside⟩ := h
  cases Session.advance_cases taken with
  | replied pc room =>
      refine ⟨pin, _, ?_, rfl, ?_⟩
      · exact ⟨hprincipal, trivial⟩
      · unfold Session.advance
        simp only [pc, room, if_true]
  | pinAccepted pc valid => exact absurd (congrArg Prod.fst valid) (unpaired _ pc)
  | pinRefused pc invalid =>
      obtain ⟨pin', rfl, hother⟩ := validatePairingPin_alike hfingerprint invalid
      refine ⟨pin', _, ?_, rfl, ?_⟩
      · exact ⟨hprincipal, trivial⟩
      · unfold Session.advance pairResponse
        simp only [pc, hother, hfingerprint]
  | tokenUnknown pc unknown =>
      rw [pc] at houtside
      refine ⟨pin, _, ?_, rfl, ?_⟩
      · exact ⟨hprincipal, trivial⟩
      · unfold Session.advance
        simp only [pc, houtside.2]
  | tokenRefused pc known =>
      rw [pc] at houtside
      exact absurd (houtside.1.symm.trans known) nofun
  | tokenAccepted pc known =>
      rw [pc] at houtside
      exact absurd (houtside.1.symm.trans known) nofun
  | issued pc | paired pc | authorizedDevices pc | authorizedAttach pc | authorizedDetach pc
  | listed pc | attachUnknown pc | attached pc | detached pc | tokensExamined pc | urbLeased pc
  | urbRefused pc | urbAbsent pc | urbPresent pc | urbSpawned pc | unlinked pc =>
      rw [pc] at houtside
      exact houtside.elim

/-! ## Two servers in lockstep -/

/-- Replacing a session by another one outside. -/
theorem Alike.setSession {index : Nat} {new : Session}
    (houtside : ∀ session ∈ sessions, session.Outside a b) (hnew : new.Outside a b) :
    Alike a b ((World.outside a pin now sessions).setSession index new)
      ((World.outside b pin now sessions).setSession index new) := by
  refine ⟨pin, now, sessions.set index new, ?_, rfl, rfl⟩
  intro session mem
  rcases List.mem_or_eq_of_mem_set mem with mem | rfl
  · exact houtside session mem
  · exact hnew

theorem Alike.write {index : Nat} {post : World}
    (houtside : ∀ session ∈ sessions, session.Outside a b)
    (taken : (World.outside a pin now sessions).step platform (.write index) = some post) :
    ∃ post', (World.outside b pin now sessions).step platform (.write index) = some post' ∧
      Alike a b post post' := by
  obtain ⟨session, found, taken⟩ := Option.bind_eq_some_iff.mp taken
  have hsession := houtside _ (List.mem_of_getElem? found)
  unfold World.step
  dsimp only
  show ∃ post', ((World.outside a pin now sessions).sessions[index]?).bind _ = _ ∧ _
  rw [found, Option.bind_some]
  split at taken
  · rename_i hjoining
    rw [if_pos hjoining]
    split at taken
    · cases taken
    · rename_i msg queue hqueue
      split at taken
      · cases taken
        exact ⟨_, rfl, .setSession houtside ⟨hsession.principal, hsession.pc⟩⟩
      · cases taken
        exact ⟨_, rfl, .setSession houtside ⟨hsession.principal, trivial⟩⟩
  · cases taken

theorem Alike.step (hhostname : a.hostname = b.hostname)
    (hfingerprint : a.fingerprint = b.fingerprint) {pre post pre' : World} {act : Action}
    (h : Alike a b pre pre') (taken : pre.step platform act = some post)
    (outsider : Outsider platform a b ⟨pre, act, post⟩) :
    ∃ post', pre'.step platform act = some post' ∧ Alike a b post post' := by
  obtain ⟨pin, now, sessions, houtside, rfl, rfl⟩ := h
  have session_outside : ∀ {index : Nat} {session : Session}, sessions[index]? = some session →
      session.Outside a b := fun found => houtside _ (List.mem_of_getElem? found)
  -- a step of a session by itself is the same step on the other server
  have same : ∀ {index : Nat} {new : Session}, new.Outside a b →
      (World.outside b pin now sessions).step platform act =
        some ((World.outside b pin now sessions).setSession index new) →
      ∃ post', (World.outside b pin now sessions).step platform act = some post' ∧
        Alike a b ((World.outside a pin now sessions).setSession index new) post' :=
    fun hnew htaken => ⟨_, htaken, .setSession houtside hnew⟩
  cases World.step_cases taken with
  | tick elapsed => exact ⟨_, rfl, pin, now + elapsed, sessions, houtside, rfl, rfl⟩
  | refreshHostDevices scanned => exact absurd rfl (outsider.unrefreshed scanned)
  | renewExpiredPin draw =>
      refine ⟨_, rfl, (pin.reissueIfExpired platform.sha256 a.fingerprint now draw).2, now,
        sessions, houtside, rfl, ?_⟩
      unfold ServerState.renewExpiredPin World.outside
      dsimp only
      rw [hfingerprint]
  | accept =>
      refine ⟨_, rfl, pin, now, sessions ++ [({} : Session)], ?_, rfl, rfl⟩
      intro session mem
      rcases List.mem_append.mp mem with mem | mem
      · exact houtside session mem
      · rw [List.mem_singleton.mp mem]
        exact ⟨rfl, trivial⟩
  | @recv index session msg found pc =>
      refine same ((session_outside found).dispatch _ fun req hreq => ?_) ?_
      · exact outsider.unknown index req (congrArg (Action.recv index) hreq)
      · show ((World.outside a pin now sessions).sessions[index]?).bind _ = _
        rw [found, Option.bind_some, pc]
        exact congrArg (fun new => some (World.setSession _ index new))
          (Session.dispatch_alike hhostname hfingerprint msg)
  | @eof index session found pc =>
      refine same ⟨(session_outside found).principal, trivial⟩ ?_
      show ((World.outside a pin now sessions).sessions[index]?).bind _ = _
      rw [found, Option.bind_some, pc]
  | @fail index session found joining =>
      refine same ⟨(session_outside found).principal, trivial⟩ ?_
      show ((World.outside a pin now sessions).sessions[index]?).bind _ = _
      rw [found, Option.bind_some, if_pos joining]
  | @joined index session found pc empty quiescent =>
      refine same ⟨(session_outside found).principal, trivial⟩ ?_
      show ((World.outside a pin now sessions).sessions[index]?).bind _ = _
      rw [found, Option.bind_some, pc]
      exact if_pos ⟨empty, quiescent⟩
  | @release index session found pc =>
      have hprincipal := (session_outside found).principal
      have hended : Session.Outside a b { session with principal := none, pc := .ended } :=
        ⟨rfl, trivial⟩
      rw [hprincipal]
      refine ⟨_, ?_, .setSession houtside hended⟩
      show ((World.outside a pin now sessions).sessions[index]?).bind _ = _
      rw [found, Option.bind_some, pc]
      dsimp only
      rw [hprincipal]
      rfl
  | write => exact Alike.write houtside taken
  | @advance index session draw outcome found section_ =>
      have hunpaired : ∀ req, session.pc = .pairing req →
          (ServerState.validatePairingPin platform { a with pin } req.pinHash now draw.pin).1
            ≠ true := fun req hpc hvalid =>
        outsider.unpaired index req ⟨draw, session, rfl, found, hpc, hvalid⟩
      obtain ⟨pin', new, hnew, rfl, htaken⟩ :=
        (session_outside found).advance hfingerprint hunpaired section_
      refine ⟨(World.outside b pin' now sessions).setSession index new, ?_, .setSession houtside hnew⟩
      show ((World.outside a pin now sessions).sessions[index]?).bind _ = _
      rw [found, Option.bind_some]
      show (session.advance platform now draw { b with pin } index).bind _ = _
      rw [htaken]
      rfl
  | task found => cases found

end

/-! ## What is seen and what is changed -/

/-- The message that the writer of session `s` puts on the connection in a step. -/
def wrote (s : Nat) (t : Transition World Action) : List Message :=
  match t.act with
  | .write s' =>
      if s' = s then (t.pre.queue s).head?.toList.filter fun msg => (encode msg).isOk else []
  | _ => []

/-- What the peer of session `s` has been sent, oldest first. -/
def replies (s : Nat) (history : ServerHistory) : List Message := collect (wrote s) history

section

variable {a b : ServerState}

theorem Alike.sessions {w w' : World} (h : Alike a b w w') : w'.sessions = w.sessions := by
  obtain ⟨pin, now, sessions, -, rfl, rfl⟩ := h
  rfl

theorem Alike.unchanged {w w' : World} (h : Alike a b w w') :
    (w.server.devices = a.devices ∧ w.server.leases = a.leases ∧ w.server.tokens = a.tokens) ∧
      w'.server.devices = b.devices ∧ w'.server.leases = b.leases ∧ w'.server.tokens = b.tokens := by
  obtain ⟨pin, now, sessions, -, rfl, rfl⟩ := h
  exact ⟨⟨rfl, rfl, rfl⟩, rfl, rfl, rfl⟩

theorem Alike.wrote {t t' : Transition World Action} (h : Alike a b t.pre t'.pre)
    (hact : t'.act = t.act) (s : Nat) : wrote s t' = wrote s t := by
  unfold Core.wrote World.queue
  rw [hact, h.sessions]

/-- The transitions of two histories, pair by pair. -/
theorem alike_histories {history history' : ServerHistory}
    (h : List.Forall₂ (fun t t' => t'.act = t.act ∧ Alike a b t.pre t'.pre ∧
      Alike a b t.post t'.post) history history') :
    history'.map (fun t => t.act) = history.map (fun t => t.act) ∧
    (∀ s, replies s history' = replies s history) ∧
    (∀ t ∈ history, t.post.server.devices = a.devices ∧ t.post.server.leases = a.leases ∧
      t.post.server.tokens = a.tokens) ∧
    ∀ t ∈ history', t.post.server.devices = b.devices ∧ t.post.server.leases = b.leases ∧
      t.post.server.tokens = b.tokens := by
  induction h with
  | nil => exact ⟨rfl, fun _ => rfl, by simp, by simp⟩
  | @cons t t' history history' hpair _ ih =>
      obtain ⟨hact, hpre, hpost⟩ := hpair
      obtain ⟨hacts, hreplies, hunchanged, hunchanged'⟩ := ih
      refine ⟨?_, ?_, ?_, ?_⟩
      · rw [List.map_cons, List.map_cons, hact, hacts]
      · intro s
        unfold replies at hreplies ⊢
        rw [collect_cons, collect_cons, hreplies, hpre.wrote hact]
      · exact List.forall_mem_cons.mpr ⟨hpost.unchanged.1, hunchanged⟩
      · exact List.forall_mem_cons.mpr ⟨hpost.unchanged.2, hunchanged'⟩

end

/-- Sessions that never authenticate are answered the same by any two servers of one
hostname, fingerprint and PIN, and leave the inventory, the lease book and the token
table of each as they are. -/
theorem outsiders_learn_and_change_nothing (platform : Platform) {a b : ServerState}
    {now : Instant} {history : ServerHistory} {w : World} (hhostname : a.hostname = b.hostname)
    (hfingerprint : a.fingerprint = b.fingerprint) (hpin : a.pin = b.pin)
    (run : World.Runs platform (World.initial a now) history w)
    (outsider : ∀ t ∈ history, Outsider platform a b t) :
    ∃ history' w', World.Runs platform (World.initial b now) history' w' ∧
      history'.map (fun t => t.act) = history.map (fun t => t.act) ∧
      w'.sessions = w.sessions ∧ (∀ s, replies s history' = replies s history) ∧
      (∀ t ∈ history, t.post.server.devices = a.devices ∧ t.post.server.leases = a.leases ∧
        t.post.server.tokens = a.tokens) ∧
      ∀ t ∈ history', t.post.server.devices = b.devices ∧ t.post.server.leases = b.leases ∧
        t.post.server.tokens = b.tokens := by
  have hstart : Alike a b (World.initial a now) (World.initial b now) :=
    ⟨a.pin, now, [], by simp, rfl, by rw [hpin]; rfl⟩
  obtain ⟨history', w', run', hlast, hpairs⟩ :=
    run.lockstep (Alike.step hhostname hfingerprint) hstart outsider
  obtain ⟨hacts, hrest⟩ := alike_histories hpairs
  exact ⟨history', w', run', hacts, hlast.sessions, hrest⟩

namespace Sample

/-- A guess at a token, a URB and an unlink, and the end of the connection. -/
def intruding : List Action :=
  [.accept] ++ greet 0 peer ++
    [.recv 0 (.deviceListRequest { authToken := Vector.replicate 32 7 }), .advance 0 (draw 0),
      .advance 0 (draw 0), .recv 0 (.urbSubmit urb), .advance 0 (draw 0),
      .recv 0 (.urbUnlink { seq := 7, deviceId := 1 }), .advance 0 (draw 0)] ++ hangUp 0

/-- The token of the guess is the only one presented, and no PIN. -/
def harmless (t : Transition World Action) : Bool :=
  match t.act with
  | .refreshHostDevices _ => false
  | .recv _ msg =>
      match msg with
      | .deviceListRequest req => req.authToken == Vector.replicate 32 7
      | .attachRequest _ | .detachRequest _ => false
      | _ => true
  | .advance s _ =>
      match t.pre.sessions[s]? with
      | some session =>
          match session.pc with
          | .pairing _ => false
          | _ => true
      | none => true
  | _ => true

theorem outsider_of_harmless {t : Transition World Action} (h : harmless t = true) :
    Outsider platform start.server twoTokens t := by
  unfold harmless at h
  refine ⟨?_, ?_, ?_⟩
  · intro scanned hact
    rw [hact] at h
    cases h
  · intro s req hact
    rw [hact] at h
    cases req with
    | devices req =>
        have htoken : req.authToken = Vector.replicate 32 7 := beq_iff_eq.mp h
        show start.server.tokens[req.authToken]? = none ∧ twoTokens.tokens[req.authToken]? = none
        rw [htoken]
        decide +kernel
    | attach req => cases h
    | detach req => cases h
  · rintro s req ⟨draw, session, hact, found, hpc, -⟩
    rw [hact] at h
    dsimp only at h
    rw [found] at h
    dsimp only at h
    rw [hpc] at h
    cases h

end Sample

/-- A server without tokens and one with two answer the intruder the same: a greeting, an
error, a refused URB and a refused unlink. -/
theorem sample_outsiders_learn_and_change_nothing :
    (replies 0 (replay (World.step Sample.platform) Sample.intruding ([], Sample.start)).1).length = 4 ∧
    ∃ history' w', World.Runs Sample.platform (World.initial Sample.twoTokens 0) history' w' ∧
      replies 0 history' =
        replies 0 (replay (World.step Sample.platform) Sample.intruding ([], Sample.start)).1 := by
  have run : World.Runs Sample.platform Sample.start
      (replay (World.step Sample.platform) Sample.intruding ([], Sample.start)).1 _ :=
    Run.nil.replay Sample.intruding
  have hharmless : ∀ t ∈ (replay (World.step Sample.platform) Sample.intruding
      ([], Sample.start)).1, Sample.harmless t = true := by
    decide +kernel
  have houtsider : ∀ t ∈ (replay (World.step Sample.platform) Sample.intruding
      ([], Sample.start)).1, Outsider Sample.platform Sample.start.server Sample.twoTokens t :=
    fun t mem => Sample.outsider_of_harmless (hharmless t mem)
  have hhostname : Sample.start.server.hostname = Sample.twoTokens.hostname := rfl
  obtain ⟨history', w', run', -, -, hreplies, -⟩ :=
    outsiders_learn_and_change_nothing Sample.platform hhostname rfl rfl run houtsider
  exact ⟨by decide +kernel, history', w', run', hreplies 0⟩

end FarBus.Core
