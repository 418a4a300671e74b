/-
  Core/LeaseLifetime.lean --- how long a granted lease lasts.

  A session that is told `success: true` expects the lease to last until it ends, a
  detach is processed or the device goes.  Leases are kept by peer and not by
  session, and `serve_session` ends with `release_all`, so the end of any other
  session of the same peer takes the lease away: a second command-line client, or the
  connection that a reconnect has already replaced.  `lease_lifetime` says that this
  is the only way to lose it, apart from what happens between the attach section and
  the sending of its response; `lease_lost_to_other_session` is such a run.
-/
import FarBus.Core.LeaseRuns

set_option autoImplicit false

namespace FarBus.Core

open FarBus.Foundation
open FarBus.Protocol

/-- In `t`, a session other than `s` ends whose principal is `peer`. -/
def EndsOther (s : Nat) (peer : PeerFingerprint) (t : Transition World Action) : Prop :=
  ∃ s' session, s' ≠ s ∧ t.act = .release s' ∧ t.pre.sessions[s']? = some session ∧
    session.principal = some peer

/-- In `t`, a detach of `peer` for the device is processed, or a refresh removes it. -/
def DetachedOrUnplugged (device : DeviceId) (peer : PeerFingerprint)
    (t : Transition World Action) : Prop :=
  (∃ s, DetachProcessed s device peer t) ∨ Unplugs device t

instance (s : Nat) (act : Action) : Decidable (act = .release s) :=
  match act with
  | .release s' => decidable_of_iff (s' = s) (by rw [Action.release.injEq])
  | .tick _ | .refreshHostDevices _ | .renewExpiredPin _ | .accept | .recv _ _ | .eof _
  | .advance _ _ | .write _ | .fail _ | .joined _ | .task _ _ => .isFalse nofun

instance (w : World) (act : Action) (P : Nat → Session → Prop)
    [∀ s session, Decidable (P s session)] :
    Decidable (∃ s session, act = .release s ∧ w.sessions[s]? = some session ∧ P s session) :=
  decidable_of_iff
    ((match act with
      | .release s => (w.sessions[s]?).any fun session => P s session
      | _ => false) = true) <| by
    split
    · simp [Option.any_eq_true]
    · rename_i hact
      simp only [Bool.false_eq_true, false_iff, not_exists]
      intro s session h
      exact hact s h.1

instance (s : Nat) (peer : PeerFingerprint) (t : Transition World Action) :
    Decidable (EndsOther s peer t) :=
  decidable_of_iff
    (∃ s' session, t.act = .release s' ∧ t.pre.sessions[s']? = some session ∧
      (s' ≠ s ∧ session.principal = some peer)) <| by
    unfold EndsOther
    constructor
    · intro h
      obtain ⟨s', session, hact, mem, hne, principal⟩ := h
      exact ⟨s', session, hne, hact, mem, principal⟩
    · intro h
      obtain ⟨s', session, hne, hact, mem, principal⟩ := h
      exact ⟨s', session, hact, mem, hne, principal⟩

instance (device : DeviceId) (peer : PeerFingerprint) (t : Transition World Action) :
    Decidable (∃ s, DetachProcessed s device peer t) :=
  decidable_of_iff
    ((match t.act with
      | .advance s _ => (t.pre.sessions[s]?).any fun session =>
          match session.pc with
          | .detaching device' peer' => decide (device' = device) && decide (peer' = peer)
          | _ => false
      | _ => false) = true) <| by
    unfold DetachProcessed Enters
    split
    · rename_i s draw hact
      simp only [hact, Option.any_eq_true]
      constructor
      · intro h
        obtain ⟨session, mem, hpc⟩ := h
        split at hpc
        · rename_i device' peer' pc
          rw [Bool.and_eq_true, decide_eq_true_eq, decide_eq_true_eq] at hpc
          obtain ⟨rfl, rfl⟩ := hpc
          exact ⟨s, draw, session, rfl, mem, pc⟩
        · cases hpc
      · intro h
        obtain ⟨s', draw', session, heq, mem, pc⟩ := h
        cases heq
        refine ⟨session, mem, ?_⟩
        simp only [pc, decide_true, Bool.and_true]
    · rename_i hact
      simp only [Bool.false_eq_true, false_iff, not_exists]
      intro s draw session h
      exact hact s draw h.1

instance (device : DeviceId) (peer : PeerFingerprint) (t : Transition World Action) :
    Decidable (DetachedOrUnplugged device peer t) :=
  inferInstanceAs (Decidable (_ ∨ _))

instance (s : Nat) (msg : Message) (t : Transition World Action) : Decidable (Sends s msg t) :=
  decidable_of_iff
    (∃ session ∈ t.pre.sessions[s]?, ∃ session' ∈ t.post.sessions[s]?,
      session'.queue = session.queue ++ [msg]) <| by
    simp only [Sends, Option.mem_def, exists_and_left]

section

variable {platform : Platform} {start w : World} {history later earlier rest : ServerHistory}
  {t u : Transition World Action} {device : DeviceId} {peer : PeerFingerprint} {s : Nat}

/-- The steps that revoke a lease, seen from the session that got it. -/
theorem revokes_iff_ends (s : Nat) :
    t.pre.Revokes device peer t.act ↔
      EndsOther s peer t ∨ DetachedOrUnplugged device peer t ∨
        (t.act = .release s ∧
          ∃ session, t.pre.sessions[s]? = some session ∧ session.principal = some peer) := by
  rw [revokes_iff_unplugs_or_endsLease]
  constructor
  · intro h
    rcases h with hunplugs | hdetached | ⟨s', session, hact, mem, principal⟩
    · exact .inr (.inl (.inr hunplugs))
    · exact .inr (.inl (.inl hdetached))
    · by_cases hs : s' = s
      · subst hs
        exact .inr (.inr ⟨hact, session, mem, principal⟩)
      · exact .inl ⟨s', session, hs, hact, mem, principal⟩
  · intro h
    rcases h with ⟨s', session, -, hact, mem, principal⟩ | (hdetached | hunplugs) |
      ⟨hact, session, mem, principal⟩
    · exact .inr (.inr ⟨s', session, hact, mem, principal⟩)
    · exact .inr (.inl hdetached)
    · exact .inl hunplugs
    · exact .inr (.inr ⟨s, session, hact, mem, principal⟩)

/-- A session that is still there at the end of a run did not end during it. -/
theorem not_released_of_alive (run : World.Runs platform start history w) (alive : w.Alive s) :
    ∀ v ∈ history, v.act ≠ .release s := by
  induction run with
  | nil => simp
  | @snoc history pre post act run taken ih =>
      obtain ⟨aliveBefore, hact⟩ := World.Alive.before taken alive
      intro v hv
      rcases List.mem_cons.mp hv with rfl | hv
      · exact hact
      · exact ih aliveBefore v hv

/-- A lease is held throughout a run exactly if no step of the run revokes it. -/
theorem held_throughout_iff (run : World.Runs platform start history w)
    (hheld : start.server.leases.owner device = some peer) :
    (∀ v ∈ history, v.post.server.leases.owner device = some peer) ↔
      ∀ v ∈ history, ¬ v.pre.Revokes device peer v.act := by
  constructor
  · intro hsince v hv hrevokes
    have hbefore := ((run.maintained (fun w => w.server.leases.owner device = some peer) hheld
      fun v hv _ _ => hsince v hv).2 v hv).1
    exact (World.step_lost_iff (run.taken_of_mem hv) hbefore).mpr hrevokes (hsince v hv)
  · intro hnever
    exact (held_of_not_revoked run hheld hnever).2

theorem Enters.alive {pc : Pc} (h : Enters s pc t) (hpc : pc ≠ .ended) : t.pre.Alive s := by
  obtain ⟨draw, session, -, mem, rfl⟩ := h
  intro session' mem'
  rw [mem, Option.some.injEq] at mem'
  rw [← mem']
  exact hpc

theorem Enters.not_detachedOrUnplugged {pc : Pc} (h : Enters s pc t)
    (hpc : pc ≠ .detaching device peer) : ¬ DetachedOrUnplugged device peer t := by
  obtain ⟨draw, session, hact, mem, rfl⟩ := h
  intro hgone
  rcases hgone with ⟨s', draw', session', hact', mem', pc'⟩ | ⟨scanned, hact', -⟩
  · rw [hact] at hact'
    cases hact'
    rw [mem, Option.some.injEq] at mem'
    rw [mem'] at hpc
    exact hpc pc'
  · rw [hact] at hact'
    cases hact'

/-- Lease lifetime.  A session that sends a granted attach response got the lease in an
attach section before it.  Suppose that since the response this session has not
ended, no detach of the peer for the device was processed and no refresh removed it.
Then the lease has been there ever since the attach section exactly if no other
session of the peer has ended since, and between the section and the response there
was no detach and no removal; and in that case it is there now. -/
theorem lease_lifetime (hstart : World.Starting platform start)
    (run : World.Runs platform start (later ++ u :: rest) w) {response : AttachResponse}
    (hsends : Sends s (.attachResponse response) u) (hsuccess : response.success = true) :
    ∃ req peer mid t earlier, rest = mid ++ t :: earlier ∧
      AttachProcessed s response.deviceId peer t ∧ req.deviceId = response.deviceId ∧
      Authorized s rest (.attach req) peer ∧
      ((∀ v ∈ later, v.act ≠ .release s ∧ ¬ DetachedOrUnplugged response.deviceId peer v) →
        ((∀ v ∈ later ++ u :: mid, v.post.server.leases.owner response.deviceId = some peer) ↔
          (∀ v ∈ later ++ u :: mid, ¬ EndsOther s peer v) ∧
          ∀ v ∈ mid, ¬ DetachedOrUnplugged response.deviceId peer v) ∧
        ((∀ v ∈ later ++ u :: mid, ¬ EndsOther s peer v) →
          (∀ v ∈ mid, ¬ DetachedOrUnplugged response.deviceId peer v) →
          w.server.leases.owner response.deviceId = some peer)) := by
  obtain ⟨runBefore, taken, -⟩ := run.cut
  have henters := hsends.enters taken fun _ => nofun
  obtain ⟨req, peer, hdevice, hauth, t, ht, hattach, hgranted⟩ :=
    henters.justified (provenance_before hstart run) hsuccess
  obtain ⟨mid, earlier, rfl⟩ := List.append_of_mem (mem_of_mem_sinceRequest ht)
  refine ⟨req, peer, mid, t, earlier, rfl, hattach, hdevice, hauth, ?_⟩
  intro hsince
  have run' : World.Runs platform start ((later ++ u :: mid) ++ t :: earlier) w := by
    simpa using run
  obtain ⟨-, -, runSince⟩ := run'.cut
  -- the session stands at its reply when it sends it, so it did not end before
  have hnotReleased := not_released_of_alive runBefore.cut.2.2 (henters.alive nofun)
  -- sending a reply revokes nothing
  have hreply : ¬ DetachedOrUnplugged response.deviceId peer u :=
    henters.not_detachedOrUnplugged nofun
  have hnever : (∀ v ∈ later ++ u :: mid, ¬ v.pre.Revokes response.deviceId peer v.act) ↔
      (∀ v ∈ later ++ u :: mid, ¬ EndsOther s peer v) ∧
        ∀ v ∈ mid, ¬ DetachedOrUnplugged response.deviceId peer v := by
    constructor
    · intro h
      refine ⟨?_, ?_⟩
      · intro v hv hother
        exact h v hv ((revokes_iff_ends s).mpr (.inl hother))
      · intro v hv hgone
        exact h v (List.mem_append_right _ (List.mem_cons_of_mem _ hv))
          ((revokes_iff_ends s).mpr (.inr (.inl hgone)))
    · intro h v hv hrevokes
      rcases (revokes_iff_ends s).mp hrevokes with hother | hgone | ⟨hrelease, -⟩
      · exact h.1 v hv hother
      · rcases List.mem_append.mp hv with hv | hv
        · exact (hsince v hv).2 hgone
        · rcases List.mem_cons.mp hv with rfl | hv
          · exact hreply hgone
          · exact h.2 v hv hgone
      · rcases List.mem_append.mp hv with hv | hv
        · exact (hsince v hv).1 hrelease
        · rcases List.mem_cons.mp hv with rfl | hv
          · obtain ⟨draw, session, hact, -⟩ := henters
            rw [hact] at hrelease
            cases hrelease
          · exact hnotReleased v hv hrelease
  refine ⟨(held_throughout_iff runSince hgranted).trans hnever, ?_⟩
  intro hends hmid
  exact (held_of_not_revoked runSince hgranted (hnever.mpr ⟨hends, hmid⟩)).1

end

namespace Sample

/-- The attach section has granted the keyboard to session 0, and the response is next. -/
def decided : List Action := pair 0 peer 9 ++ (attach 0 9).take 4

def response : AttachResponse :=
  { deviceId := 1, success := true, usbipPort := 3240, busId := "1-1.2" }

/-- Session 0 sends the response. -/
def responded : Transition World Action := last decided (.advance 0 (draw 9))

/-- What happens after the response. -/
def afterwards (acts : List Action) : ServerHistory × World :=
  replay (World.step platform) acts ([], responded.post)

theorem runs_afterwards (acts : List Action) :
    World.Runs platform start ((afterwards acts).1 ++ responded :: (after decided).1)
      (afterwards acts).2 :=
  (runs_last decided (.advance 0 (draw 9)) (by decide +kernel)).trans (Run.nil.replay acts)

theorem responded_sends : Sends 0 (.attachResponse response) responded := by decide +kernel

theorem latestHello_decided : latestHello 0 (after decided).1 = some peer := by decide +kernel

/-- Another peer pairs and leaves while session 0 goes on. -/
def otherPeerLeaves : List Action := pair 1 otherPeer 5 ++ [.fail 1, .release 1]

/-- A second session of the same peer lists the devices and leaves. -/
def samePeerLeaves : List Action :=
  [.accept, .recv 1 (.hello { protocolMin := 2, protocolMax := 2, fingerprint := peer, hostname := "" }),
    .advance 1 (draw 0),
    .recv 1 (.deviceListRequest { authToken := Vector.replicate 32 9 }),
    .advance 1 (draw 0), .advance 1 (draw 0), .advance 1 (draw 0), .advance 1 (draw 0),
    .eof 1, .write 1, .write 1, .joined 1, .release 1]

end Sample

theorem sample_lease_lifetime :
    ∃ w, World.Runs Sample.platform Sample.start
        ((Sample.afterwards Sample.otherPeerLeaves).1 ++ Sample.responded ::
          (Sample.after Sample.decided).1) w ∧
      (Sample.afterwards Sample.otherPeerLeaves).1.length = 10 ∧
      Sends 0 (.attachResponse Sample.response) Sample.responded ∧
      w.server.leases.owner 1 = some Sample.peer := by
  have run := Sample.runs_afterwards Sample.otherPeerLeaves
  obtain ⟨req, peer, mid, t, earlier, hrest, -, -, ⟨-, hhello, -⟩, hlifetime⟩ :=
    lease_lifetime Sample.starting run Sample.responded_sends rfl
  rw [Sample.latestHello_decided, Option.some.injEq] at hhello
  subst hhello
  have hlater : ∀ v ∈ (Sample.afterwards Sample.otherPeerLeaves).1,
      v.act ≠ .release 0 ∧ ¬ DetachedOrUnplugged 1 Sample.peer v := by
    decide +kernel
  have hends : ∀ v ∈ (Sample.afterwards Sample.otherPeerLeaves).1 ++ Sample.responded ::
      (Sample.after Sample.decided).1, ¬ EndsOther 0 Sample.peer v := by
    decide +kernel
  have hgone : ∀ v ∈ (Sample.after Sample.decided).1, ¬ DetachedOrUnplugged 1 Sample.peer v := by
    decide +kernel
  refine ⟨_, run, by decide +kernel, Sample.responded_sends, ?_⟩
  apply (hlifetime hlater).2
  · intro v hv
    apply hends v
    rw [hrest]
    rcases List.mem_append.mp hv with hv | hv
    · exact List.mem_append_left _ hv
    · apply List.mem_append_right
      rcases List.mem_cons.mp hv with rfl | hv
      · exact List.mem_cons_self
      · exact List.mem_cons_of_mem _ (List.mem_append_left _ hv)
  · intro v hv
    apply hgone v
    rw [hrest]
    exact List.mem_append_left _ hv

/-- Session 0 is told that it has the keyboard and goes on; a second session of the
same peer asks for the device list and leaves.  Nobody detached the keyboard or
unplugged it, and the lease is gone. -/
theorem lease_lost_to_other_session :
    ∃ history w, World.Runs Sample.platform Sample.start
        (history ++ Sample.responded :: (Sample.after Sample.decided).1) w ∧
      Sends 0 (.attachResponse Sample.response) Sample.responded ∧
      (∃ t ∈ sinceRequest 0 (Sample.after Sample.decided).1,
        AttachProcessed 0 1 Sample.peer t ∧ t.post.server.leases.owner 1 = some Sample.peer) ∧
      (∀ v ∈ history, v.act ≠ .release 0 ∧ ¬ DetachedOrUnplugged 1 Sample.peer v) ∧
      w.server.leases.owner 1 ≠ some Sample.peer := by
  have run := Sample.runs_afterwards Sample.samePeerLeaves
  obtain ⟨req, peer, -, ⟨-, hhello, -⟩, hattached⟩ :=
    (Sample.responded_sends.enters run.cut.2.1 fun _ => nofun).justified
      (provenance_before Sample.starting run) rfl
  rw [Sample.latestHello_decided, Option.some.injEq] at hhello
  subst hhello
  exact ⟨_, _, run, Sample.responded_sends, hattached, by decide +kernel, by decide +kernel⟩

end FarBus.Core
