/-
  Core/ForwarderProgress.lean --- the forwarder answers all there is.

  While the link stays up, every step of the forwarder, of its pump, of the link and of
  the session at its other end uses up work, and nothing else that goes on brings any.
  As long as the connection is not settled, one of these steps is enabled: what is on the
  link arrives, a call whose answer has arrived returns, and an unlink that has the client
  locked is such a call or is about to send.
-/
import FarBus.Core.ForwarderRuns
import FarBus.Core.LinkedProgress

set_option autoImplicit false

namespace FarBus.Core

open FarBus.Foundation
open FarBus.Protocol

/-- A call locks the client, is sent, and waits while its command goes through the link. -/
def ForwardPc.work : ForwardPc → Nat
  | .locking => 20
  | .sending => 19
  | .waiting _ => 4
  | .recovering | .returned => 0

def ForwardWorld.work (w : ForwardWorld) : Nat :=
  w.conn.work + (w.calls.map ForwardPc.work).sum + w.link.urbWork

/-- The work that a step of the forwarder uses up, or of what is behind it. -/
def ForwardAction.uses (w : ForwardWorld) : ForwardAction → Nat
  | .conn .writeFails => 0
  | .conn _ | .lock _ | .send _ | .result _ => 1
  | .link act => act.uses w.link

/-- Neither the link nor the connection fails in the step. -/
structure StaysUp (deviceId : DeviceId) (owner : PeerFingerprint)
    (t : Transition ForwardWorld ForwardAction) : Prop where
  writes : t.act ≠ .conn .writeFails
  standing : Standing deviceId owner t.post.link

section

variable {platform : Platform} {deviceId : DeviceId} {owner : PeerFingerprint}
  {token : PresenceToken} {input : Bytes} {base baseUnlinks : Nat} {w w' : ForwardWorld}
  {act : ForwardAction} {history : History ForwardWorld ForwardAction}

theorem LinkedAction.behind_of_uses {act : LinkedAction} {link : LinkedWorld}
    (h : 0 < act.uses link) : act.behind = true := by
  cases act with
  | client act =>
      cases act with
      | urb | unlink | control => cases h
      | take | read | stop | reconnect | receive | complete | reply => rfl
  | reconnect | deliver | write | server => rfl

theorem LinkedAction.brings_of_behind {act : LinkedAction} (h : act.behind = true) :
    act.brings = 0 := by
  cases act with
  | client act =>
      cases act with
      | urb | unlink | control => cases h
      | take | read | stop | reconnect | receive | complete | reply => rfl
  | reconnect | deliver | write | server => rfl

/-- Nothing that goes on brings work, and what the forwarder does uses it up. -/
theorem Forwarding.work_step
    (h : Forwarding platform deviceId owner token input base baseUnlinks w)
    (hquiet : StaysUp deviceId owner ⟨w, act, w'⟩)
    (taken : w.step platform deviceId act = some w') : w'.work + act.uses w ≤ w.work := by
  unfold ForwardWorld.work
  cases ForwardWorld.step_cases taken with
  | @conn act conn other htaken =>
      have hact : act ≠ .writeFails := fun hfails => hquiet.writes (congrArg ForwardAction.conn hfails)
      have hwork := UsbipConn.work_step htaken hact
      have huses : (ForwardAction.conn act).uses w ≤ 1 := by
        cases act <;> simp [ForwardAction.uses]
      have hspawned : (((conn.tasks.drop w.conn.tasks.length).map fun _ =>
          ForwardPc.locking).map ForwardPc.work).sum =
            20 * (conn.tasks.length - w.conn.tasks.length) := by
        rw [List.map_map]
        show ((conn.tasks.drop w.conn.tasks.length).map fun _ => 20).sum = _
        rw [List.map_const', List.sum_replicate_nat, List.length_drop]
        exact Nat.mul_comm _ _
      simp only [List.map_append, List.sum_append, hspawned]
      omega
  | @locked index task found pc free =>
      have hsum := sum_map_set ForwardPc.work pc .sending
      simp only [ForwardWorld.setCall, ForwardAction.uses, ForwardPc.work] at hsum ⊢
      omega
  | @sent index task link found pc htaken =>
      have hsum := sum_map_set ForwardPc.work pc (.waiting (w.link.client.nextCall task.command))
      have hlink := LinkedWorld.urbWork_step h.honest h.standing.up hquiet.standing.opened htaken
      have hbrings : (LinkedAction.client (task.command.request deviceId)).brings = 14 := by
        cases task.command <;> rfl
      simp only [ForwardWorld.setCall, ForwardAction.uses, ForwardPc.work] at hsum hlink ⊢
      omega
  | @failed index id task result found pc told recovers =>
      have hsum := sum_map_set ForwardPc.work pc .recovering
      simp only [ForwardWorld.setCall, ForwardAction.uses, ForwardPc.work] at hsum ⊢
      omega
  | @returned index id task result conn found pc told ended htaken =>
      have hsum := sum_map_set ForwardPc.work pc .returned
      have hwork := UsbipConn.work_step htaken UsbipAction.noConfusion
      simp only [ForwardWorld.setCall, ForwardAction.uses, ForwardPc.work] at hsum ⊢
      omega
  | @link act link behind htaken =>
      have hlink := LinkedWorld.urbWork_step h.honest h.standing.up hquiet.standing.opened htaken
      rw [LinkedAction.brings_of_behind behind] at hlink
      simp only [ForwardAction.uses] at hlink ⊢
      omega

/-- What is registered at the pump stays on its way. -/
theorem Forwarding.tracked_step
    (h : Forwarding platform deviceId owner token input base baseUnlinks w)
    (htracked : w.link.Tracked base baseUnlinks) (hstanding : Standing deviceId owner w'.link)
    (taken : w.step platform deviceId act = some w') : w'.link.Tracked base baseUnlinks := by
  cases ForwardWorld.step_cases taken with
  | conn | locked | failed | returned => exact htracked
  | sent found pc htaken => exact htracked.step h.honest h.standing hstanding.opened htaken
  | link behind htaken => exact htracked.step h.honest h.standing hstanding.opened htaken

/-- What uses up work keeps the link up. -/
theorem Forwarding.own_standing
    (h : Forwarding platform deviceId owner token input base baseUnlinks w)
    (own : 0 < act.uses w) (taken : w.step platform deviceId act = some w') :
    StaysUp deviceId owner ⟨w, act, w'⟩ := by
  refine ⟨?_, ?_⟩
  · rintro rfl
    cases own
  · cases ForwardWorld.step_cases taken with
    | conn | locked | failed | returned => exact h.standing
    | link behind htaken => exact h.standing.own_step h.honest own htaken
    | sent found pc htaken =>
        -- a call goes into the channel
        cases LinkedWorld.step_cases htaken with
        | client atClient hclient =>
            refine ⟨?_, h.standing.opened, h.standing.entitled⟩
            obtain ⟨pump, up⟩ := Option.isSome_iff_exists.mp h.standing.up
            have hkept : ∀ command : UsbipCommand, ∀ client,
                w.link.client.step (command.request deviceId) = some client →
                client.pump = w.link.client.pump := by
              intro command client hstep
              cases command with
              | submit cmd outPayload => cases ClientWorld.step_cases hstep <;> rfl
              | unlink cmd => cases ClientWorld.step_cases hstep <;> rfl
            show _ = true
            rw [hkept _ _ hclient]
            exact h.standing.up

end

/-! ## The forwarder does not get stuck -/

/-- No step that uses up work is enabled. -/
def ForwardWorld.Stuck (platform : Platform) (deviceId : DeviceId) (w : ForwardWorld) : Prop :=
  ∀ act : ForwardAction, 0 < act.uses w → w.step platform deviceId act = none

section

variable {platform : Platform} {deviceId : DeviceId} {owner : PeerFingerprint}
  {token : PresenceToken} {input : Bytes} {base baseUnlinks : Nat} {w : ForwardWorld}
  {index id : Nat} {task : UsbipTask}

theorem ForwardWorld.Stuck.elim (h : w.Stuck platform deviceId) (act : ForwardAction)
    (huses : 0 < act.uses w) (henabled : (w.step platform deviceId act).isSome = true) : False := by
  rw [h act huses] at henabled
  cases henabled

theorem Forwarding.permits
    (h : Forwarding platform deviceId owner token input base baseUnlinks w) :
    Permits w.link.server := by
  obtain ⟨start, history, hstart, run⟩ := h.reachable
  exact World.permits_run hstart run

theorem Forwarding.writing
    (h : Forwarding platform deviceId owner token input base baseUnlinks w) :
    w.conn.writing = true := by
  obtain ⟨history, run, hwrites⟩ := h.conn
  exact writing_run run hwrites

/-- The link has brought everything. -/
theorem ForwardWorld.Stuck.idle (hstuck : w.Stuck platform deviceId)
    (h : Forwarding platform deviceId owner token input base baseUnlinks w) :
    w.link.client.queue = [] ∧ ∀ key, ¬ w.link.Carries key := by
  have hlink : (w.link.client.queue = [] ∧ ∀ key, ¬ w.link.Carries key) ∨
      ∃ act : LinkedAction, 0 < act.uses w.link ∧ (w.link.step platform act).isSome = true :=
    h.honest.goes_on h.standing h.permits
  rcases hlink with hidle | ⟨act, huses, henabled⟩
  · exact hidle
  · refine (hstuck.elim (.link act) huses ?_).elim
    simp only [ForwardWorld.step, LinkedAction.behind_of_uses huses, if_true, Option.isSome_map]
    exact henabled

/-- There is room for what a call sends. -/
theorem ForwardWorld.Stuck.not_sending (hstuck : w.Stuck platform deviceId)
    (h : Forwarding platform deviceId owner token input base baseUnlinks w)
    (found : w.conn.tasks[index]? = some task) : w.calls[index]? ≠ some .sending := by
  intro pc
  obtain ⟨hqueue, -⟩ := hstuck.idle h
  obtain ⟨pump, up⟩ := Option.isSome_iff_exists.mp h.standing.up
  have hroom : 0 < CMD_QUEUE := by decide
  refine hstuck.elim (.send index) Nat.one_pos ?_
  cases hcommand : task.command <;>
    simp [ForwardWorld.step, found, pc, hcommand, UsbipCommand.request, LinkedWorld.step,
      ClientAction.atClient, ClientWorld.step, up, ClientWorld.sendCmd, hqueue, hroom]

/-- A call that waits has its answer. -/
theorem Forwarding.answered
    (h : Forwarding platform deviceId owner token input base baseUnlinks w)
    (hfits : (ForwardPc.waiting id).Fits base baseUnlinks deviceId w.link.client task)
    (hnone : ∀ id key, ¬ w.link.client.Awaits base baseUnlinks id key) :
    ∃ result, w.link.client.callResult task.command id = some result ∧
      UsbipConn.returns (forwardUrbs deviceId) task.command result = true ∧
      ∃ bytes, replyBytes task.command result = some bytes := by
  have hwaits := hfits.2
  cases hcommand : task.command with
  | submit cmd outPayload =>
      rw [hcommand] at hwaits
      obtain ⟨hbase, answer, hcall⟩ := hwaits
      cases answer with
      | none => exact absurd ⟨hbase, _, hcall, rfl⟩ (hnone id (.urb cmd.seqnum))
      | some answer =>
          obtain rfl := h.honest.client.answered id _ answer hbase hcall
          refine ⟨.urb (.ok (completeUrb (usbipUrb deviceId cmd outPayload))), ?_, ?_, _, rfl⟩
          · simp only [ClientWorld.callResult, hcall, Option.bind_eq_bind, Option.bind_some,
              urbWithLength_completeUrb]
          · have hencodable : Encodable
                (.urbComplete (completeUrb (usbipUrb deviceId cmd outPayload))) :=
              @AnswerFor.encodable (fun _ => True) _ ⟨_, trivial, rfl⟩
            simp only [UsbipConn.returns, forwardUrbs, (encode_eq_ok_iff _ _).mpr ⟨hencodable, rfl⟩]
            rfl
  | unlink cmd =>
      rw [hcommand] at hwaits
      obtain ⟨hbase, hlt⟩ := hwaits
      obtain ⟨⟨request, answer⟩, hcall⟩ : ∃ call, w.link.client.unlinks[id]? = some call :=
        ⟨_, List.getElem?_eq_getElem hlt⟩
      cases answer with
      | none => exact absurd ⟨hbase, request, hcall, rfl⟩ (hnone id (.unlink request.seq))
      | some answer =>
          refine ⟨.unlink (unlinkResult answer), ?_, rfl, _, rfl⟩
          simp only [ClientWorld.callResult, hcall, Option.bind_eq_bind, Option.bind_some]

theorem ForwardWorld.Stuck.not_waiting (hstuck : w.Stuck platform deviceId)
    (h : Forwarding platform deviceId owner token input base baseUnlinks w)
    (htracked : w.link.Tracked base baseUnlinks) (found : w.conn.tasks[index]? = some task) :
    w.calls[index]? ≠ some (.waiting id) := by
  intro pc
  have hfits := h.calling.fits index task _ found pc
  obtain ⟨hqueue, hcarries⟩ := hstuck.idle h
  obtain ⟨pump, up⟩ := Option.isSome_iff_exists.mp h.standing.up
  obtain ⟨result, told, returned, bytes, reply⟩ :=
    h.answered hfits (htracked.not_awaits up hqueue hcarries)
  have hover := (callResult_served h.honest.client h.honest.unlinks hfits told).1
  refine hstuck.elim (.result index) Nat.one_pos ?_
  simp [ForwardWorld.step, found, pc, told, hover, UsbipConn.step, hfits.1, returned, reply]

/-- Whoever has the client locked would go on. -/
theorem ForwardWorld.Stuck.not_locking (hstuck : w.Stuck platform deviceId)
    (h : Forwarding platform deviceId owner token input base baseUnlinks w)
    (htracked : w.link.Tracked base baseUnlinks) (found : w.conn.tasks[index]? = some task) :
    w.calls[index]? ≠ some .locking := by
  intro pc
  have hfree : w.lock = none := by
    cases hlock : w.lock with
    | none => rfl
    | some holder =>
        obtain ⟨task', cmd, call, found', pc', -, hholds⟩ := h.calling.holder holder hlock
        cases call with
        | sending => exact absurd pc' (hstuck.not_sending h found')
        | waiting id => exact absurd pc' (hstuck.not_waiting h htracked found')
        | locking | recovering | returned => cases hholds
  refine hstuck.elim (.lock index) Nat.one_pos ?_
  simp [ForwardWorld.step, found, pc, hfree]

theorem ForwardWorld.Stuck.settled (hstuck : w.Stuck platform deviceId)
    (h : Forwarding platform deviceId owner token input base baseUnlinks w)
    (htracked : w.link.Tracked base baseUnlinks) : w.conn.Settled := by
  rcases UsbipConn.goes_on (forwardUrbs deviceId) h.writing with
    hsettled | ⟨act, hact, hother, henabled⟩ | ⟨task, mem, hpc⟩
  · exact hsettled
  · obtain ⟨conn, taken⟩ := Option.isSome_iff_exists.mp henabled
    refine (hstuck.elim (.conn act) ?_ ?_).elim
    · cases act with
      | writeFails => exact absurd rfl hact
      | read | reply | complete | send | write => exact Nat.one_pos
    · cases act with
      | complete index result => exact absurd rfl (hother index result)
      | read | reply | send | write | writeFails =>
          simp only [ForwardWorld.step, taken, Option.bind_eq_bind, Option.bind_some]
          rfl
  · -- its call has not returned
    obtain ⟨index, found⟩ := List.getElem?_of_mem mem
    have hlt : index < w.calls.length := by
      rw [h.calling.length]
      exact (List.getElem?_eq_some_iff.mp found).1
    obtain ⟨call, pc⟩ : ∃ call, w.calls[index]? = some call := ⟨_, List.getElem?_eq_getElem hlt⟩
    have hfits := h.calling.fits index task call found pc
    cases call with
    | locking => exact absurd pc (hstuck.not_locking h htracked found)
    | sending => exact absurd pc (hstuck.not_sending h found)
    | waiting id => exact absurd pc (hstuck.not_waiting h htracked found)
    | recovering => exact hfits.elim
    | returned => exact absurd hpc hfits

end

end FarBus.Core
