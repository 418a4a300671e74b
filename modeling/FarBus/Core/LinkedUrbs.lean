/-
  Core/LinkedUrbs.lean --- URBs of one device over a link that stays up.

  The calls are for URBs of one device, with sequence numbers of their own, and for
  unlinks; the session serves the peer.  Then each call that has its answer has what the
  emulator computes for its own URB: the session sends nothing else, and the pump finds
  the caller by a number that no other call has.
-/
import FarBus.Core.Completions
import FarBus.Core.CompletionRouting
import FarBus.Core.Linked
import FarBus.Core.SessionUrbs

set_option autoImplicit false

namespace FarBus.Core

open FarBus.Foundation
open FarBus.Protocol

/-- The link is up, and the peer at its other end may use the device. -/
structure Standing (deviceId : DeviceId) (owner : PeerFingerprint) (w : LinkedWorld) : Prop where
  up : w.client.pump.isSome = true
  opened : w.server.Open w.session
  entitled : Entitled deviceId owner w.server

/-- The URB is that of a call made after the first `base` ones. -/
def ClientWorld.AskedSince (w : ClientWorld) (base : Nat) (urb : UrbSubmit) : Prop :=
  ∃ id, base ≤ id ∧ w.Asked id urb

/-- A call is for a URB of the device that fits in a frame. -/
def UrbFor (deviceId : DeviceId) (urb : UrbSubmit) : Prop :=
  urb.deviceId = deviceId ∧ Encodable (.urbSubmit urb)

/-- A command in the channel is one of a call that waits. -/
def ClientCmd.Waits (w : ClientWorld) (base : Nat) (deviceId : DeviceId) : ClientCmd → Prop
  | .urb submit id => base ≤ id ∧ w.urbs[id]? = some ⟨submit, none⟩
  | .unlink request _ => request.deviceId = deviceId
  | .control _ _ => False

/-- The calls from number `base` on, and the pump that serves them. -/
structure ClientWorld.Honest (base : Nat) (deviceId : DeviceId) (w : ClientWorld) : Prop where
  urbs : ∀ id urb, base ≤ id → w.Asked id urb → UrbFor deviceId urb
  distinct : ∀ id id' urb urb', base ≤ id → base ≤ id' → w.Asked id urb → w.Asked id' urb' →
    urb.seq = urb'.seq → id = id'
  answered : ∀ (id : Nat) urb result, base ≤ id → w.urbs[id]? = some ⟨urb, some result⟩ →
    result = .ok (completeUrb urb)
  queued : ∀ cmd ∈ w.queue, cmd.Waits w base deviceId
  once : w.queuedUrbs.Nodup
  pending : ∀ pump, w.pump = some pump → ∀ (seq : UInt32) id, pump.pendingUrbs[seq]? = some id →
    base ≤ id ∧ id ∉ w.queuedUrbs ∧ ∃ urb, w.urbs[id]? = some ⟨urb, none⟩ ∧ urb.seq = seq
  sent : ∀ sent ∈ w.toServer, RequestFor (w.AskedSince base) deviceId sent.msg
  arriving : ∀ arriving ∈ w.toClient, AnswerFor (w.AskedSince base) arriving.msg

/-- An unlink has not been answered otherwise than by 0, or by an error. -/
def ClientWorld.UnlinksDone (base : Nat) (w : ClientWorld) : Prop :=
  ∀ (id : Nat) unlink status, base ≤ id → w.unlinks[id]? = some ⟨unlink, some (.ok status)⟩ →
    status = 0

section

variable {w w' : ClientWorld} {act : ClientAction} {base : Nat} {deviceId : DeviceId}
  {urb : UrbSubmit} {id : Nat}

theorem ClientWorld.AskedSince.step (h : w.AskedSince base urb) (taken : w.step act = some w') :
    w'.AskedSince base urb := by
  obtain ⟨id, hbase, hasked⟩ := h
  exact ⟨id, hbase, asked_step taken hasked⟩

/-- A call is for one URB. -/
theorem ClientWorld.Asked.unique {urb' : UrbSubmit} (h : w.Asked id urb) (h' : w.Asked id urb') :
    urb = urb' := by
  obtain ⟨answer, h⟩ := h
  obtain ⟨answer', h'⟩ := h'
  rw [h] at h'
  cases h'
  rfl

/-- A URB is called for under a number of its own. -/
theorem ClientWorld.Honest.called (h : w.Honest base deviceId) (hbase : base ≤ w.urbs.length)
    (hurb : UrbFor deviceId urb)
    (hfresh : ∀ id urb', base ≤ id → w.Asked id urb' → urb'.seq ≠ urb.seq) :
    ClientWorld.Honest base deviceId
      { w with
        urbs := w.urbs ++ [⟨urb, none⟩]
        queue := w.queue ++ [.urb urb w.urbs.length] } := by
  have hlookup : ∀ {id : Nat} {call : ClientCall UrbSubmit UrbComplete},
      (w.urbs ++ [⟨urb, none⟩])[id]? = some call →
      w.urbs[id]? = some call ∨ id = w.urbs.length ∧ call = ⟨urb, none⟩ := by
    intro id call hcall
    rw [List.getElem?_append] at hcall
    split at hcall
    · exact .inl hcall
    · rw [List.getElem?_singleton] at hcall
      split at hcall <;> cases hcall
      exact .inr ⟨by omega, rfl⟩
  have hkept : ∀ {id : Nat} {call : ClientCall UrbSubmit UrbComplete}, w.urbs[id]? = some call →
      (w.urbs ++ [⟨urb, none⟩])[id]? = some call :=
    fun hcall => (List.getElem?_append_left (List.getElem?_eq_some_iff.mp hcall).1).trans hcall
  have hasked : ∀ urb', w.AskedSince base urb' →
      ClientWorld.AskedSince { w with
        urbs := w.urbs ++ [⟨urb, none⟩]
        queue := w.queue ++ [.urb urb w.urbs.length] } base urb' := by
    intro urb' hbefore
    obtain ⟨id, hid, answer, hcall⟩ := hbefore
    exact ⟨id, hid, answer, hkept hcall⟩
  refine ⟨?_, ?_, ?_, ?_, ?_, ?_, ?_, ?_⟩
  · intro id urb' hid hcall
    rcases ClientWorld.Asked.of_append hcall with hbefore | rfl
    · exact h.urbs id urb' hid hbefore
    · exact hurb
  · intro id id' urb₁ urb₂ hid hid' hcall hcall' hseq
    obtain ⟨answer, hcall⟩ := hcall
    obtain ⟨answer', hcall'⟩ := hcall'
    rcases hlookup hcall with hbefore | ⟨rfl, heq⟩
    · rcases hlookup hcall' with hbefore' | ⟨rfl, heq'⟩
      · exact h.distinct id id' urb₁ urb₂ hid hid' ⟨_, hbefore⟩ ⟨_, hbefore'⟩ hseq
      · cases heq'
        exact absurd hseq (hfresh id urb₁ hid ⟨_, hbefore⟩)
    · cases heq
      rcases hlookup hcall' with hbefore' | ⟨rfl, -⟩
      · exact absurd hseq.symm (hfresh id' urb₂ hid' ⟨_, hbefore'⟩)
      · rfl
  · intro id urb' result hid hcall
    rcases hlookup hcall with hbefore | ⟨-, heq⟩
    · exact h.answered id urb' result hid hbefore
    · cases heq
  · intro cmd mem
    rcases List.mem_append.mp mem with mem | mem
    · have hwaits := h.queued cmd mem
      cases cmd with
      | urb urb' id => exact ⟨hwaits.1, hkept hwaits.2⟩
      | unlink => exact hwaits
      | control => exact hwaits
    · rw [List.mem_singleton.mp mem]
      exact ⟨hbase, List.getElem?_concat_length⟩
  · rw [ClientWorld.queuedUrbs, List.filterMap_append, List.nodup_append]
    refine ⟨h.once, List.nodup_cons.mpr ⟨List.not_mem_nil, List.nodup_nil⟩, ?_⟩
    intro id mem id' mem'
    obtain ⟨urb', hqueued⟩ := ClientWorld.exists_of_mem_queuedUrbs mem
    have hlt := (List.getElem?_eq_some_iff.mp (h.queued _ hqueued).2).1
    rw [List.mem_singleton.mp mem']
    exact Nat.ne_of_lt hlt
  · intro pump' up' seq id hpending
    obtain ⟨hid, hnot, urb', hcall, hseq⟩ := h.pending pump' up' seq id hpending
    refine ⟨hid, ?_, urb', hkept hcall, hseq⟩
    rw [ClientWorld.queuedUrbs, List.filterMap_append, List.mem_append, not_or]
    refine ⟨hnot, ?_⟩
    intro mem
    rw [List.mem_singleton.mp mem] at hcall
    exact absurd (List.getElem?_eq_some_iff.mp hcall).1 (Nat.lt_irrefl _)
  · exact fun sent mem => (h.sent sent mem).mono hasked
  · exact fun arriving mem => (h.arriving arriving mem).mono hasked

/-- An unlink is called for. -/
theorem ClientWorld.Honest.unlink (h : w.Honest base deviceId) {request : UrbUnlink}
    (hdevice : request.deviceId = deviceId) :
    ClientWorld.Honest base deviceId
      { w with
        unlinks := w.unlinks ++ [⟨request, none⟩]
        queue := w.queue ++ [.unlink request w.unlinks.length] } := by
  have hqueued : (w.queue ++ [ClientCmd.unlink request w.unlinks.length]).filterMap
      ClientCmd.urbReply = w.queuedUrbs := by
    rw [List.filterMap_append]
    exact List.append_nil _
  refine ⟨h.urbs, h.distinct, h.answered, ?_, ?_, ?_, h.sent, h.arriving⟩
  · intro cmd mem
    rcases List.mem_append.mp mem with mem | mem
    · exact h.queued cmd mem
    · rw [List.mem_singleton.mp mem]
      exact hdevice
  · rw [ClientWorld.queuedUrbs, hqueued]
    exact h.once
  · intro pump up seq id hpending
    rw [ClientWorld.queuedUrbs, hqueued]
    exact h.pending pump up seq id hpending

/-- The head of the channel is not registered yet, and nobody else under its number. -/
theorem ClientWorld.Honest.fresh (h : w.Honest base deviceId) {pump : Pump}
    (up : w.pump = some pump) {queue : List ClientCmd} (head : w.queue = .urb urb id :: queue) :
    pump.pendingUrbs[urb.seq]? = none := by
  have hmem : .urb urb id ∈ w.queue := by
    rw [head]
    exact List.mem_cons_self
  rw [Option.eq_none_iff_forall_ne_some]
  intro other hother
  obtain ⟨hbase, hcall⟩ := h.queued _ hmem
  obtain ⟨hbase', hnot, urb', hcall', hseq⟩ := h.pending pump up urb.seq other hother
  have hsame := h.distinct other id urb' urb hbase' hbase ⟨_, hcall'⟩ ⟨_, hcall⟩ hseq
  subst hsame
  exact hnot (ClientWorld.mem_queuedUrbs hmem)

/-- A command is written. -/
theorem ClientWorld.Honest.took (h : w.Honest base deviceId) {pump : Pump} {cmd : ClientCmd}
    {queue : List ClientCmd} (up : w.pump = some pump) (head : w.queue = cmd :: queue) :
    ClientWorld.Honest base deviceId
      { w.tell (pump.register cmd).1 with
        queue
        pump := some (pump.register cmd).2
        toServer := w.toServer ++ [⟨cmd.message, cmd.reply⟩] } := by
  have hwaits := h.queued cmd (by rw [head]; exact List.mem_cons_self)
  have hlater : ∀ cmd' ∈ queue, cmd'.Waits w base deviceId := by
    intro cmd' mem
    apply h.queued
    rw [head]
    exact List.mem_cons_of_mem _ mem
  have honce := h.once
  rw [ClientWorld.queuedUrbs, head] at honce
  have hurbs : (w.tell (pump.register cmd).1).urbs = w.urbs := by
    cases cmd with
    | control | unlink => exact deliver_nil _
    | urb submit reply =>
        simp only [ClientWorld.tell, Pump.register, h.fresh up head, Option.toList_none, closedAll,
          List.map_nil, deliver_nil]
  have hsent : RequestFor (w.AskedSince base) deviceId cmd.message := by
    cases cmd with
    | control => exact hwaits.elim
    | urb submit reply => exact ⟨reply, hwaits.1, _, hwaits.2⟩
    | unlink => exact hwaits
  have hasked : ∀ submit, w.AskedSince base submit →
      ClientWorld.AskedSince { w.tell (pump.register cmd).1 with
        queue
        pump := some (pump.register cmd).2
        toServer := w.toServer ++ [⟨cmd.message, cmd.reply⟩] } base submit := by
    intro submit hbefore
    obtain ⟨id, hid, answer, hcall⟩ := hbefore
    exact ⟨id, hid, answer, by rw [← hcall]; exact congrArg (·[id]?) hurbs⟩
  constructor
  · intro id submit hid hcall
    unfold ClientWorld.Asked at hcall
    rw [hurbs] at hcall
    exact h.urbs id submit hid hcall
  · intro id id' submit submit' hid hid' hcall hcall'
    unfold ClientWorld.Asked at hcall hcall'
    rw [hurbs] at hcall hcall'
    exact h.distinct id id' submit submit' hid hid' hcall hcall'
  · rw [hurbs]
    exact h.answered
  · intro cmd' mem
    have hbefore := hlater cmd' mem
    cases cmd' with
    | urb submit id => exact ⟨hbefore.1, by rw [hurbs]; exact hbefore.2⟩
    | unlink | control => exact hbefore
  · cases cmd with
    | control | unlink => exact honce
    | urb => exact (List.nodup_cons.mp honce).2
  · intro pump' up' seq id hpending
    cases up'
    rw [hurbs]
    cases cmd with
    | control => exact hwaits.elim
    | unlink =>
        obtain ⟨hid, hnot, hcall⟩ := h.pending pump up seq id hpending
        rw [ClientWorld.queuedUrbs, head] at hnot
        exact ⟨hid, hnot, hcall⟩
    | urb submit reply =>
        simp only [Pump.register, lookup_insert] at hpending
        split at hpending
        · rename_i hseq
          cases hpending
          exact ⟨hwaits.1, (List.nodup_cons.mp honce).1, submit, hwaits.2, hseq.symm⟩
        · obtain ⟨hid, hnot, hcall⟩ := h.pending pump up seq id hpending
          rw [ClientWorld.queuedUrbs, head] at hnot
          exact ⟨hid, fun mem => hnot (List.mem_cons_of_mem _ mem), hcall⟩
  · intro sent mem
    rcases List.mem_append.mp mem with mem | mem
    · exact (h.sent sent mem).mono hasked
    · rw [List.mem_singleton.mp mem]
      exact hsent.mono hasked
  · exact fun arriving mem => (h.arriving arriving mem).mono hasked

/-- The answers of the calls do not change, nor what waits. -/
theorem ClientWorld.Honest.readOther (h : w.Honest base deviceId) {pump pump' : Pump}
    (up : w.pump = some pump) (urbs : w'.urbs = w.urbs) (queue : w'.queue = w.queue)
    (up' : w'.pump = some pump') (pending : pump'.pendingUrbs = pump.pendingUrbs)
    (toServer : w'.toServer = w.toServer) (toClient : ∀ arriving ∈ w'.toClient, arriving ∈ w.toClient) :
    w'.Honest base deviceId := by
  have hasked : ∀ submit, w.AskedSince base submit → w'.AskedSince base submit := by
    intro submit hbefore
    obtain ⟨id, hid, answer, hcall⟩ := hbefore
    exact ⟨id, hid, answer, by rw [urbs]; exact hcall⟩
  constructor
  · unfold ClientWorld.Asked
    rw [urbs]
    exact h.urbs
  · unfold ClientWorld.Asked
    rw [urbs]
    exact h.distinct
  · rw [urbs]
    exact h.answered
  · intro cmd mem
    rw [queue] at mem
    have hbefore := h.queued cmd mem
    cases cmd with
    | urb submit id => exact ⟨hbefore.1, by rw [urbs]; exact hbefore.2⟩
    | unlink | control => exact hbefore
  · rw [ClientWorld.queuedUrbs, queue]
    exact h.once
  · intro pump'' up'' seq id hpending
    rw [up', Option.some.injEq] at up''
    subst up''
    rw [pending] at hpending
    rw [ClientWorld.queuedUrbs, queue, urbs]
    exact h.pending pump up seq id hpending
  · intro sent mem
    rw [toServer] at mem
    exact (h.sent sent mem).mono hasked
  · exact fun arriving mem => (h.arriving arriving (toClient arriving mem)).mono hasked

/-- A completion answers the call it is for. -/
theorem ClientWorld.Honest.completed (h : w.Honest base deviceId) {pump : Pump}
    (up : w.pump = some pump) {arriving : Arriving} {toClient : List Arriving}
    {complete : UrbComplete} (head : w.toClient = arriving :: toClient)
    (hmsg : arriving.msg = .urbComplete complete)
    (hpending : pump.pendingUrbs[complete.seq]? = some id) :
    ClientWorld.Honest base deviceId
      { w.tell (pump.dispatch arriving.msg).1 with
        pump := some (pump.dispatch arriving.msg).2
        toClient } := by
  obtain ⟨hbase, hnot, urb, hcall, hseq⟩ := h.pending pump up complete.seq id hpending
  have harriving := h.arriving arriving (by rw [head]; exact List.mem_cons_self)
  rw [hmsg] at harriving
  obtain ⟨urb', ⟨id', hbase', hasked'⟩, rfl⟩ := harriving
  have hsame := h.distinct id id' urb urb' hbase hbase' ⟨_, hcall⟩ hasked' (by
    rw [hseq, completeUrb_seq])
  subst hsame
  obtain rfl := ClientWorld.Asked.unique ⟨_, hcall⟩ hasked'
  have hdispatch : pump.dispatch arriving.msg =
      ({ urbs := [(id, .ok (completeUrb urb))] },
        { pump with pendingUrbs := pump.pendingUrbs.erase urb.seq }) := by
    rw [hmsg]
    rw [completeUrb_seq] at hpending
    simp only [Pump.dispatch, completeUrb_seq, hpending]
  rw [hdispatch]
  -- the other calls wait as before
  have hlookup : ∀ {other : Nat} {submit : UrbSubmit}, other ≠ id →
      w.urbs[other]? = some ⟨submit, none⟩ →
      (deliver w.urbs [(id, .ok (completeUrb urb))])[other]? = some ⟨submit, none⟩ := by
    intro other submit hother hwaits
    rw [deliver_unanswered_iff, lookup_singleton, if_neg hother]
    exact ⟨hwaits, rfl⟩
  have hasked : ∀ {other : Nat} {submit : UrbSubmit},
      (∃ answer, (deliver w.urbs [(id, .ok (completeUrb urb))])[other]? = some ⟨submit, answer⟩) →
      w.Asked other submit := by
    intro other submit hcall'
    have htold : (w.tell { urbs := [(id, .ok (completeUrb urb))] }).Asked other submit := hcall'
    exact htold.of_tell
  have hsince : ∀ submit, w.AskedSince base submit →
      ClientWorld.AskedSince
        { w.tell { urbs := [(id, .ok (completeUrb urb))] } with
          pump := some { pump with pendingUrbs := pump.pendingUrbs.erase urb.seq }
          toClient } base submit := by
    intro submit hbefore
    obtain ⟨other, hother, hcall'⟩ := hbefore
    exact ⟨other, hother, hcall'.tell _⟩
  constructor
  · exact fun other submit hother hcall' => h.urbs other submit hother (hasked hcall')
  · intro other other' submit submit' hother hother' hcall₁ hcall₂
    exact h.distinct other other' submit submit' hother hother' (hasked hcall₁) (hasked hcall₂)
  · intro other submit result hother hcall'
    rcases of_deliver hcall' with hbefore | ⟨hbefore, hnow⟩
    · exact h.answered other submit result hother hbefore
    · rw [lookup_singleton] at hnow
      split at hnow
      · rename_i heq
        subst heq
        cases hnow
        rw [hcall] at hbefore
        cases hbefore
        rfl
      · cases hnow
  · intro cmd mem
    have hbefore := h.queued cmd mem
    cases cmd with
    | urb submit other =>
        refine ⟨hbefore.1, hlookup ?_ hbefore.2⟩
        rintro rfl
        exact hnot (ClientWorld.mem_queuedUrbs mem)
    | unlink | control => exact hbefore
  · exact h.once
  · intro pump' up' seq other hother
    cases up'
    dsimp only at hother
    rw [lookup_erase] at hother
    split at hother
    · cases hother
    · rename_i hne
      obtain ⟨hbase'', hnot', submit, hcall', hseq'⟩ := h.pending pump up seq other hother
      refine ⟨hbase'', hnot', submit, hlookup ?_ hcall', hseq'⟩
      rintro rfl
      rw [hcall] at hcall'
      cases hcall'
      exact hne hseq'.symm
  · exact fun sent mem => (h.sent sent mem).mono hsince
  · intro arriving' mem
    refine (h.arriving arriving' ?_).mono hsince
    rw [head]
    exact List.mem_cons_of_mem _ mem

/-- A message is read. -/
theorem ClientWorld.Honest.read (h : w.Honest base deviceId) {pump : Pump}
    (up : w.pump = some pump) {arriving : Arriving} {toClient : List Arriving}
    (head : w.toClient = arriving :: toClient) :
    ClientWorld.Honest base deviceId
      { w.tell (pump.dispatch arriving.msg).1 with
        pump := some (pump.dispatch arriving.msg).2
        toClient } := by
  have hlater : ∀ arriving' ∈ toClient, arriving' ∈ w.toClient := by
    intro arriving' mem
    rw [head]
    exact List.mem_cons_of_mem _ mem
  cases hmsg : isUrbComplete arriving.msg with
  | false =>
      obtain ⟨htold, hpending⟩ := pump.dispatch_other hmsg
      refine h.readOther up ?_ rfl rfl hpending rfl hlater
      simp only [ClientWorld.tell, htold, deliver_nil]
  | true =>
      obtain ⟨complete, hmsg⟩ := exists_of_isUrbComplete hmsg
      cases hpending : pump.pendingUrbs[complete.seq]? with
      | some id => exact h.completed up head hmsg hpending
      | none =>
          have hdispatch : pump.dispatch arriving.msg = ({}, pump) := by
            rw [hmsg]
            simp only [Pump.dispatch, hpending]
          rw [hdispatch]
          exact h.readOther up (deliver_nil _) rfl rfl rfl rfl hlater

/-- A session takes a request off the link. -/
theorem ClientWorld.Honest.receive (h : w.Honest base deviceId) {sent : Sent} {toServer : List Sent}
    (head : w.toServer = sent :: toServer) :
    ClientWorld.Honest base deviceId { w with toServer } :=
  ⟨h.urbs, h.distinct, h.answered, h.queued, h.once, h.pending,
    fun sent' mem => h.sent sent' (by rw [head]; exact List.mem_cons_of_mem _ mem), h.arriving⟩

/-- A session writes answers. -/
theorem ClientWorld.Honest.answer (h : w.Honest base deviceId) {answers : List Arriving}
    (hanswers : ∀ arriving ∈ answers, AnswerFor (w.AskedSince base) arriving.msg) :
    ClientWorld.Honest base deviceId { w with toClient := w.toClient ++ answers } := by
  refine ⟨h.urbs, h.distinct, h.answered, h.queued, h.once, h.pending, h.sent, ?_⟩
  intro arriving mem
  rcases List.mem_append.mp mem with mem | mem
  · exact h.arriving arriving mem
  · exact hanswers arriving mem

/-- What the calls of a forwarder are for. -/
def ClientAction.CallsFor (w : ClientWorld) (base : Nat) (deviceId : DeviceId) : ClientAction → Prop
  | .urb submit => UrbFor deviceId submit ∧
      ∀ id submit', base ≤ id → w.Asked id submit' → submit'.seq ≠ submit.seq
  | .unlink request => request.deviceId = deviceId
  | .control _ => False
  | _ => True

/-- A step of the client. -/
theorem ClientWorld.Honest.step (h : w.Honest base deviceId) (hbase : base ≤ w.urbs.length)
    (up : w.pump.isSome = true) (up' : w'.pump.isSome = true) (atClient : act.atClient = true)
    (hcalls : act.CallsFor w base deviceId) (taken : w.step act = some w') :
    w'.Honest base deviceId := by
  have hdown : w.pump ≠ none := by
    intro hnone
    rw [hnone] at up
    cases up
  cases ClientWorld.step_cases taken with
  | urbDown _ down | unlinkDown _ down | controlDown _ down => exact absurd down hdown
  | urb submit => exact h.called hbase hcalls.1 hcalls.2
  | unlink request => exact h.unlink hcalls
  | control => exact hcalls.elim
  | took up head => exact h.took up head
  | read up head => exact h.read up head
  | takeFailed | stop => cases up'
  | reconnect | receive | complete | reply => cases atClient

theorem length_deliver {ρ α : Type} (calls : List (ClientCall ρ α)) (answers : Answers α) :
    (deliver calls answers).length = calls.length := by
  unfold deliver
  rw [List.length_mapIdx]

/-- Calls are not dropped. -/
theorem calls_length_step (taken : w.step act = some w') :
    w.urbs.length ≤ w'.urbs.length ∧ w.unlinks.length ≤ w'.unlinks.length := by
  cases ClientWorld.step_cases taken with
  | urbDown | urb =>
      rw [List.length_append]
      exact ⟨Nat.le_add_right _ _, Nat.le_refl _⟩
  | unlinkDown | unlink =>
      rw [List.length_append]
      exact ⟨Nat.le_refl _, Nat.le_add_right _ _⟩
  | took | read | stop =>
      simp only [ClientWorld.shutdown, ClientWorld.tell, length_deliver]
      exact ⟨Nat.le_refl _, Nat.le_refl _⟩
  | takeFailed =>
      simp only [ClientWorld.shutdown, ClientWorld.tell, length_deliver]
      exact ⟨Nat.le_refl _, Nat.le_refl _⟩
  | controlDown | control | reconnect | receive | complete | reply =>
      exact ⟨Nat.le_refl _, Nat.le_refl _⟩

/-- Where nobody is told anything but errors, no unlink is answered otherwise. -/
theorem ClientWorld.UnlinksDone.tell (h : w.UnlinksDone base) {told : Told}
    (htold : ∀ (id : Nat) status, told.unlinks.lookup id = some (.ok status) → status = 0) :
    (w.tell told).UnlinksDone base := by
  intro id request status hid hcall
  rcases of_deliver hcall with hbefore | ⟨-, hnow⟩
  · exact h id request status hid hbefore
  · exact htold id status hnow

theorem Pump.register_unlinks (pump : Pump) (cmd : ClientCmd) :
    ∃ replies, (pump.register cmd).1.unlinks = closedAll replies := by
  cases cmd with
  | control | urb => exact ⟨[], rfl⟩
  | unlink => exact ⟨_, rfl⟩

theorem ok_not_closed {replies : List Nat} {id : Nat} {status : Int32}
    (h : (closedAll replies : Answers Int32).lookup id = some (.ok status)) : status = 0 := by
  rw [lookup_closedAll] at h
  split at h <;> cases h

theorem Pump.dispatch_unlinks {asked : UrbSubmit → Prop} {msg : Message} (pump : Pump)
    (h : AnswerFor asked msg) {id : Nat} {status : Int32}
    (hlookup : (pump.dispatch msg).1.unlinks.lookup id = some (.ok status)) : status = 0 := by
  cases msg with
  | urbComplete complete =>
      dsimp only [Pump.dispatch] at hlookup
      split at hlookup <;> cases hlookup
  | urbUnlinked unlinked =>
      dsimp only [Pump.dispatch] at hlookup
      split at hlookup
      · rw [lookup_singleton] at hlookup
        split at hlookup <;> cases hlookup
        exact h
      · cases hlookup
  | _ => exact h.elim

theorem ClientWorld.UnlinksDone.step {baseUrbs : Nat} (h : w.UnlinksDone base)
    (hhonest : w.Honest baseUrbs deviceId) (up' : w'.pump.isSome = true)
    (taken : w.step act = some w') : w'.UnlinksDone base := by
  cases ClientWorld.step_cases taken with
  | unlinkDown request | unlink request =>
      intro id request' status hid hcall
      dsimp only at hcall
      rw [List.getElem?_append] at hcall
      split at hcall
      · exact h id request' status hid hcall
      · rw [List.getElem?_singleton] at hcall
        split at hcall <;> cases hcall
  | took =>
      refine h.tell fun id status hlookup => ?_
      obtain ⟨replies, hclosed⟩ := Pump.register_unlinks _ _
      rw [hclosed] at hlookup
      exact ok_not_closed hlookup
  | @read pump arriving toClient up head =>
      refine h.tell fun id status hlookup => ?_
      exact pump.dispatch_unlinks (hhonest.arriving arriving (by rw [head]; exact List.mem_cons_self))
        hlookup
  | takeFailed | stop => cases up'
  | urbDown | urb | controlDown | control | reconnect | receive | complete | reply => exact h

end

/-! ## The two ends together -/

/-- What is on the link and at its ends, in a run in which nothing has failed: `base`
calls for URBs and `baseUnlinks` for unlinks were made before. -/
structure LinkedWorld.Honest (base baseUnlinks : Nat) (deviceId : DeviceId) (owner : PeerFingerprint)
    (token : PresenceToken) (w : LinkedWorld) : Prop where
  started : base ≤ w.client.urbs.length ∧ baseUnlinks ≤ w.client.unlinks.length
  client : w.client.Honest base deviceId
  unlinks : w.client.UnlinksDone baseUnlinks
  serves : Serves (w.client.AskedSince base) deviceId owner token w.session w.server

/-- The calls of a forwarder, and nothing else, at the client. -/
def LinkedAction.CallsFor (w : LinkedWorld) (base : Nat) (deviceId : DeviceId) : LinkedAction → Prop
  | .client act => act.CallsFor w.client base deviceId
  | _ => True

section

variable {platform : Platform} {base baseUnlinks : Nat} {deviceId : DeviceId}
  {owner : PeerFingerprint} {token : PresenceToken} {w w' : LinkedWorld} {act : LinkedAction}

/-- The server moves, and the client's calls stay. -/
theorem LinkedWorld.Honest.server (h : w.Honest base baseUnlinks deviceId owner token)
    (hformed : w.server.server.devices.WellFormed) (htokened : w.server.server.devices.Tokened)
    (hstanding : Standing deviceId owner w) (hstanding' : Standing deviceId owner w')
    {act' : Action} (taken : w.server.step platform act' = some w'.server)
    (hrecv : ∀ msg, act' = .recv w.session msg → RequestFor (w.client.AskedSince base) deviceId msg)
    (session : w'.session = w.session) (urbs : w'.client.urbs = w.client.urbs)
    (unlinks : w'.client.unlinks = w.client.unlinks)
    (client : w'.client.Honest base deviceId) :
    w'.Honest base baseUnlinks deviceId owner token := by
  refine ⟨?_, client, ?_, ?_⟩
  · rw [urbs, unlinks]
    exact h.started
  · unfold ClientWorld.UnlinksDone
    rw [unlinks]
    exact h.unlinks
  · have hsame : w'.client.AskedSince base = w.client.AskedSince base := by
      unfold ClientWorld.AskedSince ClientWorld.Asked
      rw [urbs]
    have hopened := hstanding'.opened
    obtain ⟨device, hget, -⟩ := hstanding'.entitled.emulated
    rw [session] at hopened
    rw [hsame, session]
    refine h.serves.step hstanding.entitled hformed htokened ?_ taken ⟨device, hget⟩ hopened hrecv
    intro urb hasked
    obtain ⟨id, hid, hasked⟩ := hasked
    exact (h.client.urbs id urb hid hasked).1

theorem mem_outgoing {arriving : Arriving} (mem : arriving ∈ w.outgoing) {session : Session}
    (found : w.server.sessions[w.session]? = some session) : arriving.msg ∈ session.queue := by
  unfold LinkedWorld.outgoing at mem
  rw [found] at mem
  obtain ⟨msg, hmsg, rfl⟩ := Option.map_eq_some_iff.mp (Option.mem_toList.mp mem)
  obtain ⟨msg', hhead, hcarry⟩ := Option.bind_eq_some_iff.mp hmsg
  rw [(of_carry hcarry).1]
  exact List.mem_of_head? hhead

theorem LinkedWorld.Honest.step (h : w.Honest base baseUnlinks deviceId owner token)
    (hformed : w.server.server.devices.WellFormed) (htokened : w.server.server.devices.Tokened)
    (hstanding : Standing deviceId owner w) (hstanding' : Standing deviceId owner w')
    (hcalls : act.CallsFor w base deviceId) (taken : w.step platform act = some w') :
    w'.Honest base baseUnlinks deviceId owner token := by
  cases LinkedWorld.step_cases taken with
  | client atClient htaken =>
      have hhonest := h.client.step h.started.1 hstanding.up hstanding'.up atClient hcalls htaken
      have hlength := calls_length_step htaken
      refine ⟨⟨?_, ?_⟩, hhonest, h.unlinks.step h.client hstanding'.up htaken, ?_⟩
      · exact Nat.le_trans h.started.1 hlength.1
      · exact Nat.le_trans h.started.2 hlength.2
      · exact h.serves.mono fun urb hasked => hasked.step htaken
  | reconnect down =>
      have hup := hstanding.up
      rw [down] at hup
      cases hup
  | @delivered sent toServer server head carried htaken =>
      refine h.server hformed htokened hstanding hstanding' htaken ?_ rfl rfl rfl
        (h.client.receive head)
      intro msg hact
      cases hact
      exact h.client.sent sent (by rw [head]; exact List.mem_cons_self)
  | @garbled sent toServer server head lost htaken =>
      refine h.server hformed htokened hstanding hstanding' htaken ?_ rfl rfl rfl
        (h.client.receive head)
      intro msg hact
      cases hact
  | write htaken =>
      refine h.server hformed htokened hstanding hstanding' htaken ?_ rfl rfl rfl
        (h.client.answer ?_)
      · intro msg hact
        cases hact
      · intro arriving mem
        obtain ⟨session, found, hsession⟩ := h.serves.session
        exact hsession.queue _ (mem_outgoing mem found)
  | @server act' server offLink htaken =>
      refine h.server hformed htokened hstanding hstanding' htaken ?_ rfl rfl rfl h.client
      rintro msg rfl
      simp [Action.onLink] at offLink

end

end FarBus.Core
