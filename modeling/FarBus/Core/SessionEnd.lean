/-
  Core/SessionEnd.lean --- what a session leaves in the lease book.

  `serve_session` keeps one principal, the peer it was authenticated as last, and its
  last act is `release_all` for that peer.  A session that authenticates again as
  another peer goes on with the leases of the first one in the book, and does not come
  back to them at its end.
-/
import FarBus.Core.LeaseRuns

set_option autoImplicit false

namespace FarBus.Core

open FarBus.Foundation
open FarBus.Protocol

theorem LeaseBook.eq_empty_iff (book : LeaseBook) :
    book = {} ↔ ∀ device, book.owner device = none := by
  constructor
  · intro h device
    rw [h]
    exact LeaseBook.owner_empty device
  · intro h
    obtain ⟨owners⟩ := book
    rw [LeaseBook.mk.injEq]
    apply Std.ExtTreeMap.ext_getElem?
    intro device
    rw [Std.ExtTreeMap.getElem?_empty]
    exact h device

/-! ## One session alone -/

/-- A server whose lease book is empty, with one connection just accepted. -/
def World.alone (server : ServerState) (now : Instant) : World :=
  { now, server := { server with leases := {} }, sessions := [{}] }

/-- The peer a session is authenticated as. -/
def World.principal (w : World) (s : Nat) : Option PeerFingerprint :=
  (w.sessions[s]?).bind fun session => session.principal

/-- In `t`, session `s` stopped being authenticated as `peer`. -/
def Leaves (s : Nat) (peer : PeerFingerprint) (t : Transition World Action) : Prop :=
  t.pre.principal s = some peer ∧ t.post.principal s ≠ some peer

section

variable {platform : Platform} {server : ServerState} {now : Instant} {start w w' : World}
  {history later earlier : ServerHistory} {t : Transition World Action} {s : Nat}
  {peer : PeerFingerprint} {device : DeviceId} {session : Session}

theorem World.principal_eq (mem : w.sessions[s]? = some session) :
    w.principal s = session.principal := by
  simp only [World.principal, mem, Option.bind_some]

/-- What a session does with a peer's devices, it does while authenticated as that
peer. -/
def World.ActsForPrincipal (w : World) : Prop :=
  ∀ (s : Nat) (session : Session), w.sessions[s]? = some session →
    ∀ owner, session.pc.actsFor = some owner → session.principal = some owner

theorem Session.dispatch_actsFor {msg : Message} {owner : PeerFingerprint}
    (h : (session.dispatch platform server msg).pc.actsFor = some owner) :
    (session.dispatch platform server msg).principal = some owner := by
  cases msg with
  | urbSubmit urb | urbUnlink unlink =>
      simp only [Session.dispatch] at h ⊢
      split at h
      · cases h
      · rename_i hprincipal
        simp only [hprincipal]
        exact h
  | pairRequest req =>
      simp only [Session.dispatch] at h
      split at h <;> cases h
  | _ => cases h

theorem Session.AdvanceCases.actsFor {draw : Draw} {outcome : Outcome}
    (entered : session.AdvanceCases platform now draw server s outcome)
    (hsame : ∀ owner, session.pc.actsFor = some owner → session.principal = some owner)
    {owner : PeerFingerprint} (h : outcome.session.pc.actsFor = some owner) :
    outcome.session.principal = some owner := by
  cases entered with
  | authorizedAttach | authorizedDetach => exact h
  | tokensExamined pc | urbLeased pc | urbPresent pc =>
      apply hsame
      rw [pc]
      exact h
  | _ => cases h

theorem actsForPrincipal (run : World.Runs platform (World.alone server now) history w) :
    w.ActsForPrincipal := by
  refine run.invariant World.ActsForPrincipal ?_ ?_
  · intro s session mem owner howner
    obtain rfl : session = {} := by
      have hmem := List.mem_of_getElem? mem
      simpa [World.alone] using hmem
    cases howner
  · intro pre act post hpre taken s session' mem' owner howner
    rcases World.step_session taken mem' with ⟨-, -, rfl⟩ | ⟨session, mem, hmove⟩
    · cases howner
    · cases hmove with
      | kept quiet peer principal pc =>
          rw [pc] at howner
          rw [principal]
          exact hpre s session mem owner howner
      | recv msg hact pc result =>
          rw [result] at howner ⊢
          exact Session.dispatch_actsFor howner
      | advance draw outcome hact entered result =>
          rw [result] at howner ⊢
          exact entered.actsFor (hpre s session mem) howner
      | left quiet live peer principal pc =>
          rcases pc with pc | pc | pc <;> rw [pc] at howner <;> cases howner

/-- The session is the only one there is. -/
theorem only_session (run : World.Runs platform (World.alone server now) history w)
    (hsingle : ∀ t ∈ history, t.act ≠ .accept) (mem : w.sessions[s]? = some session) : s = 0 := by
  have hlength : w.sessions.length = 1 := by
    refine (run.maintained (fun w => w.sessions.length = 1) rfl ?_).1
    intro t ht taken hpre
    rw [World.step_sessions_length_eq taken (hsingle t ht)]
    exact hpre
  have hlt := (List.getElem?_eq_some_iff.mp mem).1
  omega

/-- A step that changes the principal of a session leaves the lease book alone. -/
theorem Leaves.leases (h : Leaves s peer t) (taken : t.pre.step platform t.act = some t.post) :
    t.post.server.leases = t.pre.server.leases := by
  obtain ⟨hpre, hpost⟩ := h
  obtain ⟨session, mem, hprincipal⟩ := Option.bind_eq_some_iff.mp hpre
  obtain ⟨session', mem'⟩ := World.step_session_stays taken mem
  rw [World.principal_eq mem'] at hpost
  rcases World.step_session taken mem' with ⟨-, hnone, -⟩ | ⟨session₁, mem₁, hmove⟩
  · rw [mem] at hnone
    cases hnone
  · rw [mem, Option.some.injEq] at mem₁
    subst mem₁
    cases hmove with
    | kept quiet peer principal pc => exact absurd (principal.trans hprincipal) hpost
    | recv msg hact pc result =>
        rw [result, Session.dispatch_principal] at hpost
        exact absurd hprincipal hpost
    | advance draw outcome hact entered result =>
        rw [World.step_leases taken, hact]
        simp only [World.leaseOp, mem, Option.bind_eq_bind, Option.bind_some]
        rw [result] at hpost
        cases entered with
        | paired pc | authorizedDevices pc | authorizedAttach pc | authorizedDetach pc =>
            simp only [Session.leaseOp, pc]
            rfl
        | _ => exact absurd hprincipal hpost
    | left quiet live peer principal pc => exact absurd (principal.trans hprincipal) hpost

/-- Once the session has ended, nothing is leased to its principal. -/
theorem released_at_end (run : World.Runs platform (World.alone server now) history w)
    (hsingle : ∀ t ∈ history, t.act ≠ .accept) (mem : w.sessions[0]? = some session)
    (hended : session.pc = .ended) (hprincipal : session.principal = some peer) :
    w.server.leases.owner device ≠ some peer := by
  induction run generalizing session with
  | nil =>
      cases mem
      cases hended
  | @snoc history pre post act run taken ih =>
      have hsinglePre : ∀ t ∈ history, t.act ≠ .accept :=
        fun t ht => hsingle t (List.mem_cons_of_mem _ ht)
      obtain ⟨before, memPre⟩ : ∃ before, pre.sessions[0]? = some before := by
        have hlength := World.step_sessions_length_eq taken (hsingle _ List.mem_cons_self)
        have hlt := (List.getElem?_eq_some_iff.mp mem).1
        exact ⟨_, List.getElem?_eq_getElem (hlength ▸ hlt)⟩
      by_cases hbefore : before.pc = .ended
      · -- nobody is left to acquire anything
        intro hleased
        have hstays := World.step_session_ended taken memPre hbefore mem
        have hnot := ih hsinglePre memPre hbefore (hstays ▸ hprincipal)
        obtain ⟨hchange, -⟩ := World.step_acquired taken hnot hleased
        cases hchange with
        | attached draw memS pc =>
            obtain rfl := only_session run hsinglePre memS
            rw [memPre, Option.some.injEq] at memS
            rw [← memS, hbefore] at pc
            cases pc
      · obtain ⟨rfl, -, hsame⟩ := World.step_ends taken memPre hbefore mem hended
        rw [World.step_leases taken]
        simp only [World.leaseOp, memPre, Option.bind_eq_bind, Option.bind_some]
        rw [← hsame, hprincipal]
        simp only [Option.map_some, LeaseBook.update, LeaseOp.apply, LeaseBook.owner_releaseAll]
        split
        · intro h
          cases h
        · assumption

/-- An attach section finds its session authenticated as the new owner, and leaves it so. -/
theorem acquired_by_principal (run : World.Runs platform (World.alone server now) earlier t.pre)
    (hsingle : ∀ u ∈ earlier, u.act ≠ .accept) (taken : t.pre.step platform t.act = some t.post)
    (hbefore : t.pre.server.leases.owner device ≠ some peer)
    (hafter : t.post.server.leases.owner device = some peer) : t.post.principal 0 = some peer := by
  have hactsFor := actsForPrincipal run
  obtain ⟨pre, act, post⟩ := t
  obtain ⟨hchange, -⟩ := World.step_acquired taken hbefore hafter
  cases hchange with
  | @attached s session device peer found draw mem pc get exported =>
      obtain rfl := only_session run hsingle mem
      have hprincipal := hactsFor 0 session mem peer (by rw [pc]; rfl)
      by_contra hleft
      have hleaves : Leaves 0 peer ⟨pre, .advance 0 draw, post⟩ :=
        ⟨(World.principal_eq mem).trans hprincipal, hleft⟩
      have hsame := hleaves.leases taken
      dsimp only at hsame hafter hbefore
      rw [hsame] at hafter
      exact hbefore hafter

/-- A session that is not authenticated as the peer ends none of its leases. -/
theorem kept_while_away (run : World.Runs platform (World.alone server now) earlier t.pre)
    (hsingle : ∀ u ∈ earlier, u.act ≠ .accept) (taken : t.pre.step platform t.act = some t.post)
    (haway : t.pre.principal 0 ≠ some peer) (hplugged : ¬ Unplugs device t)
    (hheld : t.pre.server.leases.owner device = some peer) :
    t.post.server.leases.owner device = some peer := by
  refine lease_step taken hplugged ?_ hheld
  intro hends
  apply haway
  rcases hends with ⟨s, draw, session, hact, mem, pc⟩ | ⟨s, session, hact, mem, principal⟩
  · obtain rfl := only_session run hsingle mem
    rw [World.principal_eq mem]
    apply actsForPrincipal run 0 session mem
    rw [pc]
    rfl
  · obtain rfl := only_session run hsingle mem
    rw [World.principal_eq mem]
    exact principal

/-- What a single session leaves in the lease book.  It is empty after the session has
ended exactly if each time the session stopped being authenticated as a peer that held
a device, it was authenticated as that peer once more later, or a refresh removed the
device. -/
theorem leases_empty_after_session_iff
    (run : World.Runs platform (World.alone server now) history w)
    (hsingle : ∀ t ∈ history, t.act ≠ .accept) (mem : w.sessions[0]? = some session)
    (hended : session.pc = .ended) :
    w.server.leases = {} ↔
      ∀ later t earlier, history = later ++ t :: earlier → ∀ peer device, Leaves 0 peer t →
        t.pre.server.leases.owner device = some peer →
        (∃ u ∈ later, u.post.principal 0 = some peer) ∨ ∃ u ∈ later, Unplugs device u := by
  rw [LeaseBook.eq_empty_iff]
  constructor
  · intro hempty later t earlier hcut peer device hleaves hheld
    subst hcut
    obtain ⟨runBefore, taken, runLater⟩ := run.cut
    by_contra hnone
    rw [not_or] at hnone
    obtain ⟨hnever, hplugged⟩ := hnone
    -- away from the peer, the session leaves the lease alone
    have haway := (runLater.maintained (fun w => w.principal 0 ≠ some peer) hleaves.2
      fun u hu _ _ hagain => hnever ⟨u, hu, hagain⟩).2
    have hstill : w.server.leases.owner device = some peer := by
      refine (runLater.maintained (fun w => w.server.leases.owner device = some peer) ?_ ?_).1
      · rw [hleaves.leases taken]
        exact hheld
      · intro u hu takenU hbefore
        obtain ⟨since, first, rfl⟩ := List.append_of_mem hu
        have runU := (runBefore.snoc taken).trans runLater.cut.1
        refine kept_while_away runU ?_ takenU (haway u hu).1 (fun h => hplugged ⟨u, hu, h⟩) hbefore
        intro v hv
        apply hsingle v
        simp only [List.mem_append, List.mem_cons] at hv ⊢
        tauto
    rw [hempty device] at hstill
    cases hstill
  · intro hcondition device
    by_contra hleased
    obtain ⟨peer, hpeer⟩ := Option.ne_none_iff_exists'.mp hleased
    -- the lease was acquired, and kept from there on
    obtain ⟨later, t, earlier, rfl, hbefore, hafter, hsince⟩ :=
      run.established (fun w => w.server.leases.owner device = some peer)
        (by simp [World.alone, LeaseBook.owner_empty]) hpeer
    obtain ⟨runBefore, taken, runLater⟩ := run.cut
    have hsingleBefore : ∀ u ∈ earlier, u.act ≠ .accept := fun u hu =>
      hsingle u (List.mem_append_right _ (List.mem_cons_of_mem _ hu))
    have hacquired := acquired_by_principal runBefore hsingleBefore taken hbefore hafter
    have hfinal : w.principal 0 ≠ some peer := by
      rw [World.principal_eq mem]
      intro hprincipal
      exact released_at_end run hsingle mem hended hprincipal hpeer
    -- the session left the peer for good in between
    obtain ⟨last, u, first, rfl, hleaving, hleft, hlast⟩ :=
      runLater.established (fun w => w.principal 0 ≠ some peer) (not_not.mpr hacquired) hfinal
    have hu : u ∈ last ++ u :: first := List.mem_append_right _ List.mem_cons_self
    rcases hcondition last u (first ++ t :: earlier) (by simp) peer device
      ⟨not_not.mp hleaving, hleft⟩ (hsince u hu).1 with ⟨v, hv, hagain⟩ | ⟨v, hv, hunplugs⟩
    · exact (hlast v hv).2 hagain
    · have hvmem : v ∈ last ++ u :: first := List.mem_append_left _ hv
      have hrevokes : v.pre.Revokes device peer v.act :=
        revokes_iff_unplugs_or_endsLease.mpr (.inl hunplugs)
      exact (World.step_lost_iff (runLater.taken_of_mem hvmem) (hsince v hvmem).1).mpr hrevokes
        (hsince v hvmem).2

end

instance (act : Action) : Decidable (act = .accept) :=
  match act with
  | .accept => .isTrue rfl
  | .tick _ | .refreshHostDevices _ | .renewExpiredPin _ | .recv _ _ | .eof _ | .advance _ _
  | .write _ | .fail _ | .joined _ | .release _ | .task _ _ => .isFalse Action.noConfusion

namespace Sample

/-- A server with a token for each of two peers. -/
def twoTokens : ServerState :=
  { ServerState.new platform "server" serverFingerprint [device] 0 0 with
    tokens := ((∅ : Std.ExtTreeMap Bytes32 (PeerFingerprint × Instant)).insert
      (Vector.replicate 32 9) (peer, TOKEN_TTL)).insert (Vector.replicate 32 5)
        (otherPeer, TOKEN_TTL) }

def greet (s : Nat) (peer : PeerFingerprint) : List Action :=
  [.recv s (.hello { protocolMin := 2, protocolMax := 2, fingerprint := peer, hostname := "" }),
    .advance s (draw 0)]

def listDevices (s : Nat) (n : UInt8) : List Action :=
  [.recv s (.deviceListRequest { authToken := Vector.replicate 32 n }),
    .advance s (draw 0), .advance s (draw 0), .advance s (draw 0), .advance s (draw 0)]

/-- The connection is closed; the writer sends what is left. -/
def hangUp (s : Nat) : List Action :=
  .eof s :: List.replicate 4 (.write s) ++ [.joined s, .release s]

/-- The session attaches the keyboard as one peer, and lists the devices as the other. -/
def switching : List Action := greet 0 peer ++ attach 0 9 ++ greet 0 otherPeer ++ listDevices 0 5

def aloneAfter (acts : List Action) : ServerHistory × World :=
  replay (World.step platform) acts ([], World.alone twoTokens 0)

theorem runs_aloneAfter (acts : List Action) :
    World.Runs platform (World.alone twoTokens 0) (aloneAfter acts).1 (aloneAfter acts).2 :=
  Run.nil.replay acts

/-- The one session of a state has ended. -/
def endedAlone (w : World) : Bool :=
  match w.sessions with
  | [session] =>
      match session.pc with
      | .ended => true
      | _ => false
  | _ => false

theorem ended_of_endedAlone {w : World} (h : endedAlone w = true) :
    ∃ session, w.sessions[0]? = some session ∧ session.pc = .ended := by
  unfold endedAlone at h
  split at h
  · rename_i session hsessions
    split at h
    · rename_i hpc
      exact ⟨session, by rw [hsessions]; rfl, hpc⟩
    · cases h
  · cases h

end Sample

theorem sample_leases_empty_after_session :
    (∃ u ∈ (Sample.aloneAfter (Sample.greet 0 Sample.peer ++ Sample.attach 0 9 ++
      Sample.hangUp 0)).1, u.post.server.leases.owner 1 = some Sample.peer) ∧
    (Sample.aloneAfter (Sample.greet 0 Sample.peer ++ Sample.attach 0 9 ++
      Sample.hangUp 0)).2.server.leases = {} := by
  have run := Sample.runs_aloneAfter (Sample.greet 0 Sample.peer ++ Sample.attach 0 9 ++
    Sample.hangUp 0)
  obtain ⟨session, mem, hended⟩ := Sample.ended_of_endedAlone (w := (Sample.aloneAfter
    (Sample.greet 0 Sample.peer ++ Sample.attach 0 9 ++ Sample.hangUp 0)).2) (by decide +kernel)
  refine ⟨by decide +kernel, (leases_empty_after_session_iff run ?_ mem hended).mpr ?_⟩
  · decide +kernel
  · have hstays : ∀ t ∈ (Sample.aloneAfter (Sample.greet 0 Sample.peer ++ Sample.attach 0 9 ++
        Sample.hangUp 0)).1, t.pre.principal 0 = none ∨
        t.post.principal 0 = t.pre.principal 0 := by
      decide +kernel
    intro later t earlier hcut peer device hleaves hheld
    have ht := hstays t (by rw [hcut]; exact List.mem_append_right _ List.mem_cons_self)
    obtain ⟨hpre, hpost⟩ := hleaves
    rcases ht with hnone | hsame
    · rw [hnone] at hpre
      cases hpre
    · exact absurd (hsame.trans hpre) hpost

/-- The keyboard stays leased to the first peer after the session is gone. -/
theorem lease_outlives_session :
    ¬ ∀ (platform : Platform) (server : ServerState) (now : Instant) (history : ServerHistory)
      (w : World) (session : Session), World.Runs platform (World.alone server now) history w →
      (∀ t ∈ history, t.act ≠ .accept) → w.sessions[0]? = some session → session.pc = .ended →
      w.server.leases = {} := by
  intro hclaim
  have run := Sample.runs_aloneAfter (Sample.switching ++ Sample.hangUp 0)
  obtain ⟨session, mem, hended⟩ := Sample.ended_of_endedAlone (w := (Sample.aloneAfter
    (Sample.switching ++ Sample.hangUp 0)).2) (by decide +kernel)
  have hempty := hclaim _ _ _ _ _ session run (by decide +kernel) mem hended
  have hleased : (Sample.aloneAfter (Sample.switching ++ Sample.hangUp 0)).2.server.leases.owner 1 =
      some Sample.peer := by
    decide +kernel
  rw [hempty, LeaseBook.owner_empty] at hleased
  cases hleased

end FarBus.Core
