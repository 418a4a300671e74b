/-
  Core/ForwarderRefinement.lean --- the forwarder refines the local server.

  On one connection, with the link up, the lease and a token valid, the device emulated at
  the other end and no custom completer there, `forward_urbs` stops reading where
  `serve_urbs` does, and writes the same replies, up to order.
-/
import FarBus.Core.ForwarderProgress

set_option autoImplicit false

namespace FarBus.Core

open FarBus.Foundation
open FarBus.Protocol

/-- A client and its session that are attached and idle: nothing is under way between
them, and the peer may use the device. -/
structure LinkedWorld.Idle (platform : Platform) (deviceId : DeviceId) (owner : PeerFingerprint)
    (w : LinkedWorld) : Prop where
  reachable : w.server.Reachable platform
  standing : Standing deviceId owner w
  pump : w.client.pump = some {}
  queue : w.client.queue = []
  toServer : w.client.toServer = []
  toClient : w.client.toClient = []
  session : ∃ session, w.server.sessions[w.session]? = some session ∧
    session.principal = some owner ∧ session.pc = .reading ∧ session.queue = []
  tasks : ∀ task ∈ w.server.tasks, task.session = w.session → task.pc = .finished

section

variable {platform : Platform} {deviceId : DeviceId} {owner : PeerFingerprint}
  {token : PresenceToken} {input : Bytes} {base baseUnlinks : Nat} {link : LinkedWorld}
  {w : ForwardWorld} {history : History ForwardWorld ForwardAction}

/-! ## Where a connection starts -/

theorem Pump.pending_empty (key : UrbKey) : ({} : Pump).pending key = none := by
  cases key <;> exact Std.ExtTreeMap.getElem?_empty

/-- There is no call yet that the connection has made. -/
theorem LinkedWorld.Idle.not_asked {client : ClientWorld} {id : Nat} {urb : UrbSubmit}
    (hid : client.urbs.length ≤ id) : ¬ client.Asked id urb := by
  rintro ⟨answer, hcall⟩
  exact absurd (List.getElem?_eq_some_iff.mp hcall).1 (Nat.not_lt.mpr hid)

theorem LinkedWorld.Idle.not_awaits {client : ClientWorld} {id : Nat} {key : UrbKey} :
    ¬ client.Awaits client.urbs.length client.unlinks.length id key := by
  intro hawaits
  cases key with
  | urb seq =>
      obtain ⟨hid, urb, hcall, -⟩ := hawaits
      exact LinkedWorld.Idle.not_asked hid ⟨_, hcall⟩
  | unlink seq =>
      obtain ⟨hid, request, hcall, -⟩ := hawaits
      exact absurd (List.getElem?_eq_some_iff.mp hcall).1 (Nat.not_lt.mpr hid)

theorem LinkedWorld.Idle.client_honest (h : link.Idle platform deviceId owner) :
    link.client.Honest link.client.urbs.length deviceId where
  urbs _ _ hid hasked := absurd hasked (not_asked hid)
  distinct _ _ _ _ hid _ hasked := absurd hasked (not_asked hid)
  answered _ _ _ hid hcall := absurd ⟨_, hcall⟩ (not_asked hid)
  queued cmd mem := by
    rw [h.queue] at mem
    cases mem
  once := by
    rw [ClientWorld.queuedUrbs, h.queue]
    exact List.nodup_nil
  pending pump up seq id hpending := by
    rw [h.pump] at up
    cases up
    have hnone := Pump.pending_empty (.urb seq)
    rw [Pump.pending, hpending] at hnone
    cases hnone
  sent sent mem := by
    rw [h.toServer] at mem
    cases mem
  arriving arriving mem := by
    rw [h.toClient] at mem
    cases mem

theorem LinkedWorld.Idle.honest (h : link.Idle platform deviceId owner) :
    ∃ token, link.Honest link.client.urbs.length link.client.unlinks.length deviceId owner token := by
  obtain ⟨start, history, hstart, run⟩ := h.reachable
  obtain ⟨device, hget, -⟩ := h.standing.entitled.emulated
  have hpresent : deviceId ∈ link.server.server.devices.presence :=
    ((inventory_wellFormed hstart run).presence deviceId).mpr
      ((mem_iff_lookup _ _).mpr ⟨device, hget⟩)
  obtain ⟨token, htoken⟩ := (mem_iff_lookup _ _).mp hpresent
  refine ⟨token, ⟨Nat.le_refl _, Nat.le_refl _⟩, h.client_honest, ?_, htoken, ?_, ?_⟩
  · intro id request status hid hcall
    exact absurd (List.getElem?_eq_some_iff.mp hcall).1 (Nat.not_lt.mpr hid)
  · obtain ⟨session, found, hprincipal, hpc, hqueue⟩ := h.session
    refine ⟨session, found, hprincipal, ?_, ?_⟩
    · rw [hpc]
      trivial
    · rw [hqueue]
      simp
  · intro task mem home
    unfold Task.Serves
    rw [h.tasks task mem home]
    trivial

theorem LinkedWorld.Idle.tracked (h : link.Idle platform deviceId owner) :
    link.Tracked link.client.urbs.length link.client.unlinks.length where
  carried pump up key id hpending := by
    rw [h.pump] at up
    cases up
    rw [Pump.pending_empty] at hpending
    cases hpending
  waiting _ _ _ _ hawaits := absurd hawaits not_awaits

theorem LinkedWorld.Idle.forwarding (h : link.Idle platform deviceId owner) (input : Bytes) :
    ∃ token, Forwarding platform deviceId owner token input link.client.urbs.length
      link.client.unlinks.length { conn := { input }, link } := by
  obtain ⟨token, hhonest⟩ := h.honest
  refine ⟨token, ⟨[], .nil, by simp⟩, ⟨by simp, by simp, by simp⟩, ?_, h.reachable, h.standing,
    hhonest⟩
  refine ⟨rfl, by simp, ?_, by simp⟩
  intro id urb hid hasked
  exact absurd hasked (not_asked hid)

/-! ## Runs from there -/

theorem forwarding_run
    (h : Forwarding platform deviceId owner token input base baseUnlinks w)
    (htracked : w.link.Tracked base baseUnlinks) (hdistinct : DistinctSubmits input)
    {later : History ForwardWorld ForwardAction} {w' : ForwardWorld}
    (run : Run (ForwardWorld.step platform deviceId) w later w')
    (hquiet : ∀ t ∈ later, StaysUp deviceId owner t) :
    Forwarding platform deviceId owner token input base baseUnlinks w' ∧
      w'.link.Tracked base baseUnlinks := by
  refine (run.maintained (fun w => Forwarding platform deviceId owner token input base baseUnlinks w ∧
    w.link.Tracked base baseUnlinks) ⟨h, htracked⟩ ?_).1
  rintro t ht taken ⟨hpre, htrackedPre⟩
  obtain ⟨hwrites, hstanding⟩ := hquiet t ht
  exact ⟨hpre.step hdistinct hstanding hwrites taken, hpre.tracked_step htrackedPre hstanding taken⟩

/-- From wherever the connection has got to, it can answer all there is. -/
theorem Forwarding.settles
    (h : Forwarding platform deviceId owner token input base baseUnlinks w)
    (htracked : w.link.Tracked base baseUnlinks) (hdistinct : DistinctSubmits input) :
    ∃ later w', Run (ForwardWorld.step platform deviceId) w later w' ∧
      (∀ t ∈ later, StaysUp deviceId owner t) ∧ w'.conn.Settled := by
  have hreaches := @Run.reaches _ _ (ForwardWorld.step platform deviceId) w ForwardWorld.work
    (fun w => Forwarding platform deviceId owner token input base baseUnlinks w ∧
      w.link.Tracked base baseUnlinks)
    (fun w => w.conn.Settled) (StaysUp deviceId owner) ?_ ⟨h, htracked⟩
  · obtain ⟨later, w', run, hquiet, -, hsettled⟩ := hreaches
    exact ⟨later, w', run, hquiet, hsettled⟩
  · rintro pre ⟨hpre, htrackedPre⟩ hnot
    have hgoes : ¬ pre.Stuck platform deviceId := fun hstuck => hnot (hstuck.settled hpre htrackedPre)
    simp only [ForwardWorld.Stuck, not_forall] at hgoes
    obtain ⟨act, huses, henabled⟩ := hgoes
    obtain ⟨post, taken⟩ := Option.ne_none_iff_exists'.mp henabled
    have hquiet := hpre.own_standing huses taken
    have hwork := hpre.work_step hquiet taken
    exact ⟨act, post, taken, hquiet, ⟨hpre.step hdistinct hquiet.standing hquiet.writes taken,
      hpre.tracked_step htrackedPre hquiet.standing taken⟩, by omega⟩

/-- Whatever else goes on, the steps of the forwarder and of what is behind it come to an
end. -/
theorem Forwarding.steps_bounded
    (h : Forwarding platform deviceId owner token input base baseUnlinks w)
    (htracked : w.link.Tracked base baseUnlinks) (hdistinct : DistinctSubmits input)
    {later : History ForwardWorld ForwardAction} {w' : ForwardWorld}
    (run : Run (ForwardWorld.step platform deviceId) w later w')
    (hquiet : ∀ t ∈ later, StaysUp deviceId owner t) :
    later.countP (fun t => 0 < t.act.uses t.pre) + w'.work ≤ w.work := by
  induction run with
  | nil => exact Nat.le_of_eq (Nat.zero_add _)
  | @snoc later pre post act run taken ih =>
      have hearlier : ∀ t ∈ later, StaysUp deviceId owner t :=
        fun t ht => hquiet t (List.mem_cons_of_mem _ ht)
      have hpre := (forwarding_run h htracked hdistinct run hearlier).1
      have hwork := hpre.work_step (hquiet _ List.mem_cons_self) taken
      have hcount := ih hearlier
      rw [List.countP_cons]
      split
      · rename_i huses
        simp only [decide_eq_true_eq] at huses
        omega
      · omega

/-- The TLS forwarder refines the local proxy.  In every run of a connection, from an idle
link on, in which neither the link nor the connection fails and the peer keeps its
right to the emulated device: the connection can go on until all is answered; where
`forward_urbs` has stopped reading, `serve_urbs` stops on the same input; and once all
is answered, it has written the replies that `serve_urbs` writes, up to order, in
every run that answers all, of which there are some. -/
theorem forward_refines_serve (hidle : link.Idle platform deviceId owner)
    (hdistinct : DistinctSubmits input)
    (run : ForwardWorld.Runs platform deviceId input link history w)
    (hquiet : ∀ t ∈ history, StaysUp deviceId owner t) :
    (∃ later w', Run (ForwardWorld.step platform deviceId) w later w' ∧
      (∀ t ∈ later, StaysUp deviceId owner t) ∧ w'.conn.Settled) ∧
    (∀ localHistory served, UsbipConn.Runs (serveUrbs deviceId) input localHistory served →
      w.conn.reader = .stopped → served.reader = .stopped → w.conn.input = served.input) ∧
    (w.conn.Settled → ∀ localHistory served,
      UsbipConn.Runs (serveUrbs deviceId) input localHistory served →
      (∀ t ∈ localHistory, t.act ≠ .writeFails) → served.Settled →
      (w.conn.written.map fun out => out.bytes).Perm (served.written.map fun out => out.bytes)) ∧
    ∃ localHistory served, UsbipConn.Runs (serveUrbs deviceId) input localHistory served ∧
      (∀ t ∈ localHistory, t.act ≠ .writeFails) ∧ served.Settled := by
  obtain ⟨token, hstart⟩ := hidle.forwarding input
  obtain ⟨h, htracked⟩ := forwarding_run hstart hidle.tracked hdistinct run hquiet
  obtain ⟨connHistory, connRun, hwrites⟩ := h.conn
  refine ⟨h.settles htracked hdistinct, ?_, ?_, serveUrbs_settles deviceId input⟩
  · intro localHistory served localRun hstopped hstopped'
    rw [input_of_stopped connRun hstopped, input_of_stopped localRun hstopped']
  · intro hsettled localHistory served localRun hlocalWrites hlocalSettled
    have hforward := written_of_settled connRun hwrites h.replies hsettled
    have hserve := written_of_settled localRun hlocalWrites (repliesAs_run localRun) hlocalSettled
    exact hforward.trans hserve.symm

end

instance decidableReading (pc : Pc) : Decidable (pc = .reading) :=
  match pc with
  | .reading => .isTrue rfl
  | .replying _ | .pairing _ | .issuing _ | .paired _ _ | .authorizing _ | .authorized _ _
  | .listing | .attaching _ _ | .detaching _ _ | .urbTokens _ _ | .urbLease _ _ _
  | .urbPresence _ _ | .urbSlot _ _ _ | .unlinkLease _ _ | .draining | .closing | .ended =>
      .isFalse Pc.noConfusion

namespace Sample

/-- The keyboard is attached, and all replies are written. -/
def attachedActs : List Action := pair 0 peer 9 ++ attach 0 9 ++ List.replicate 3 (.write 0)

def attachedLink : LinkedWorld := { server := (after attachedActs).2, session := 0 }

theorem attachedLink_idle : attachedLink.Idle platform 1 peer := by
  have hsession : ∀ session ∈ (after attachedActs).2.sessions[0]?,
      session.principal = some peer ∧ session.pc = .reading ∧ session.queue.length = 0 := by
    decide +kernel
  obtain ⟨session, found⟩ : ∃ session, (after attachedActs).2.sessions[0]? = some session :=
    Option.isSome_iff_exists.mp (by decide +kernel)
  obtain ⟨hprincipal, hpc, hqueue⟩ := hsession session found
  have hdevice : ∀ device ∈ (after attachedActs).2.server.devices.get 1,
      device.backend = .emulated := by
    decide +kernel
  obtain ⟨device, hget⟩ : ∃ device, (after attachedActs).2.server.devices.get 1 = some device :=
    Option.isSome_iff_exists.mp (by decide +kernel)
  refine ⟨⟨start, _, starting, runs attachedActs⟩, ⟨rfl, ?_, ?_⟩, rfl, rfl, rfl, rfl,
    ⟨session, found, hprincipal, hpc, List.length_eq_zero_iff.mp hqueue⟩, by decide +kernel⟩
  · refine ⟨session, found, ?_, ?_⟩
    · rw [Session.joining, hpc]
    · rw [hpc]
      exact Pc.noConfusion
  · exact ⟨(completer_run (runs attachedActs)).trans rfl,
      ⟨device, hget, hdevice device hget⟩, by decide +kernel, by decide +kernel⟩

end Sample

/-- A submit and its unlink are answered as the local server does. -/
theorem sample_forward_refines_serve :
    commandsOf Sample.unlinking.input = [.submit Sample.outSubmit [5, 6], .unlink Sample.unlink] ∧
    ∃ history w localHistory served,
      ForwardWorld.Runs Sample.platform 1 Sample.unlinking.input Sample.attachedLink history w ∧
      w.conn.Settled ∧
      UsbipConn.Runs Sample.serving Sample.unlinking.input localHistory served ∧ served.Settled ∧
      w.conn.input = served.input ∧
      (w.conn.written.map fun out => out.bytes).Perm (served.written.map fun out => out.bytes) := by
  have hcommands : commandsOf Sample.unlinking.input =
      [.submit Sample.outSubmit [5, 6], .unlink Sample.unlink] := by
    obtain ⟨hread, hstopped⟩ := commandsOf_eq (Sample.runs_connAfter Sample.inOrder)
    have hcollected : collect receivedCommand (Sample.connAfter Sample.inOrder).1 =
        [.submit Sample.outSubmit [5, 6], .unlink Sample.unlink] := by
      decide +kernel
    rw [hread, hstopped (by decide +kernel), hcollected, List.append_nil]
  have hdistinct : DistinctSubmits Sample.unlinking.input := by
    unfold DistinctSubmits
    rw [hcommands]
    decide
  obtain ⟨⟨later, w, run, hquiet, hsettled⟩, -, -, localHistory, served, localRun, hwrites,
    hlocal⟩ := forward_refines_serve Sample.attachedLink_idle hdistinct .nil (by simp)
  -- the same of where that run leads to
  obtain ⟨-, hinput, hwritten, -⟩ :=
    forward_refines_serve Sample.attachedLink_idle hdistinct run hquiet
  exact ⟨hcommands, later, w, localHistory, served, run, hsettled, localRun, hlocal,
    hinput localHistory served localRun hsettled.stopped hlocal.stopped,
    hwritten hsettled localHistory served localRun hwrites hlocal⟩

end FarBus.Core
