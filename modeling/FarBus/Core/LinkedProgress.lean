/-
  Core/LinkedProgress.lean --- a link that stays up brings every answer.

  A call that waits is in the command channel, or the pump has it registered under the
  number that its answer is matched by; and what is registered is on its way, to the
  session, at the session or back.  So when there is nothing left to carry and nothing
  for the session to do, nobody waits.
-/
import FarBus.Core.SessionProgress

set_option autoImplicit false

namespace FarBus.Core

open FarBus.Foundation
open FarBus.Protocol

/-! ## Messages that fit in a frame -/

theorem carry_of_encodable {msg : Message} (h : Encodable msg) : carry msg = some msg :=
  carry_of_encode ((encode_eq_ok_iff msg _).mpr ⟨h, rfl⟩)

theorem AnswerFor.encodable {asked : UrbSubmit → Prop} {msg : Message} (h : AnswerFor asked msg) :
    Encodable msg := by
  cases msg with
  | urbComplete complete =>
      obtain ⟨urb, -, rfl⟩ := h
      have hframe : MAX_PAYLOAD = 65600 := rfl
      have hdata := length_completeUrb_le urb
      rw [encodable_urbComplete_iff]
      omega
  | urbUnlinked unlinked => exact encodable_urbUnlinked unlinked
  | _ => exact h.elim

theorem RequestFor.encodable {asked : UrbSubmit → Prop} {deviceId : DeviceId} {msg : Message}
    (h : RequestFor asked deviceId msg)
    (hasked : ∀ urb, asked urb → Encodable (.urbSubmit urb)) : Encodable msg := by
  cases msg with
  | urbSubmit urb => exact hasked urb h
  | urbUnlink unlink => exact (ClientCmd.unlink unlink 0).encodable (fun _ _ => ClientCmd.noConfusion)
  | _ => exact h.elim

/-! ## Who waits, and for what -/

/-- The caller that is registered for an answer. -/
def Pump.pending (pump : Pump) : UrbKey → Option Nat
  | .urb seq => pump.pendingUrbs[seq]?
  | .unlink seq => pump.pendingUnlinks[seq]?

/-- What the callers waiting for an answer are told. -/
def Told.tells (told : Told) (id : Nat) : UrbKey → Bool
  | .urb _ => (told.urbs.lookup id).isSome
  | .unlink _ => (told.unlinks.lookup id).isSome

/-- Call `id`, of those made since, has not been answered. -/
def ClientWorld.Awaits (base baseUnlinks : Nat) (w : ClientWorld) (id : Nat) : UrbKey → Prop
  | .urb seq => base ≤ id ∧ ∃ urb, w.urbs[id]? = some ⟨urb, none⟩ ∧ urb.seq = seq
  | .unlink seq => baseUnlinks ≤ id ∧ ∃ request, w.unlinks[id]? = some ⟨request, none⟩ ∧
      request.seq = seq

/-- Something with that number is on the link, or at the session. -/
inductive LinkedWorld.Carries (w : LinkedWorld) (key : UrbKey) : Prop where
  | toServer {sent : Sent} (mem : sent ∈ w.client.toServer) (keyed : urbKey sent.msg = some key)
  | session (carries : w.server.Carries w.session key)
  | toClient {arriving : Arriving} (mem : arriving ∈ w.client.toClient)
      (keyed : urbKey arriving.msg = some key)

/-- Whoever is registered has something on its way, and whoever waits is registered, or is
going to be. -/
structure LinkedWorld.Tracked (base baseUnlinks : Nat) (w : LinkedWorld) : Prop where
  carried : ∀ pump, w.client.pump = some pump → ∀ key id, pump.pending key = some id →
    w.Carries key
  waiting : ∀ pump, w.client.pump = some pump → ∀ key id, w.client.Awaits base baseUnlinks id key →
    (∃ cmd ∈ w.client.queue, urbKey cmd.message = some key ∧ cmd.reply = id) ∨
      pump.pending key = some id

section

variable {asked : UrbSubmit → Prop} {key : UrbKey} {id base baseUnlinks : Nat} {w w' : ClientWorld}

theorem Pump.pending_register (pump : Pump) (cmd : ClientCmd) (key : UrbKey) :
    (pump.register cmd).2.pending key =
      if urbKey cmd.message = some key then some cmd.reply else pump.pending key := by
  cases cmd with
  | control req reply =>
      have hnone : urbKey (ClientCmd.control req reply).message = none := by cases req <;> rfl
      rw [hnone, if_neg (Option.some_ne_none key).symm]
      cases key <;> rfl
  | urb submit reply =>
      cases key with
      | urb seq =>
          show (pump.pendingUrbs.insert submit.seq reply)[seq]? = _
          simp only [lookup_insert, urbKey, ClientCmd.message, Option.some.injEq, UrbKey.urb.injEq,
            ClientCmd.reply, eq_comm]
          rfl
      | unlink seq =>
          rw [if_neg (by simp [urbKey, ClientCmd.message])]
          rfl
  | unlink request reply =>
      cases key with
      | urb seq =>
          rw [if_neg (by simp [urbKey, ClientCmd.message])]
          rfl
      | unlink seq =>
          show (pump.pendingUnlinks.insert request.seq reply)[seq]? = _
          simp only [lookup_insert, urbKey, ClientCmd.message, Option.some.injEq,
            UrbKey.unlink.injEq, ClientCmd.reply, eq_comm]
          rfl

/-- The sender that a registration drops is told. -/
theorem Pump.register_tells (pump : Pump) (cmd : ClientCmd)
    (hkey : urbKey cmd.message = some key) (hpending : pump.pending key = some id) :
    (pump.register cmd).1.tells id key = true := by
  cases cmd with
  | control req reply => cases req <;> cases hkey
  | urb submit reply =>
      cases hkey
      replace hpending : pump.pendingUrbs[submit.seq]? = some id := hpending
      simp only [Pump.register, hpending, Option.toList_some, Told.tells, lookup_closedAll,
        List.mem_singleton, if_true, Option.isSome_some]
  | unlink request reply =>
      cases hkey
      replace hpending : pump.pendingUnlinks[request.seq]? = some id := hpending
      simp only [Pump.register, hpending, Option.toList_some, Told.tells, lookup_closedAll,
        List.mem_singleton, if_true, Option.isSome_some]

theorem Pump.pending_dispatch (pump : Pump) {msg : Message} (h : AnswerFor asked msg)
    (key : UrbKey) :
    (pump.dispatch msg).2.pending key = if urbKey msg = some key then none else pump.pending key := by
  cases msg with
  | urbComplete complete =>
      simp only [Pump.dispatch, urbKey, Option.some.injEq]
      cases hpending : pump.pendingUrbs[complete.seq]? with
      | none =>
          show pump.pending key = _
          split
          · rename_i heq
            subst heq
            exact hpending
          · rfl
      | some reply =>
          cases key with
          | unlink seq => rw [if_neg UrbKey.noConfusion]; rfl
          | urb seq =>
              show (pump.pendingUrbs.erase complete.seq)[seq]? = _
              simp only [lookup_erase, UrbKey.urb.injEq, eq_comm]
              rfl
  | urbUnlinked unlinked =>
      simp only [Pump.dispatch, urbKey, Option.some.injEq]
      cases hpending : pump.pendingUnlinks[unlinked.seq]? with
      | none =>
          show pump.pending key = _
          split
          · rename_i heq
            subst heq
            exact hpending
          · rfl
      | some reply =>
          cases key with
          | urb seq => rw [if_neg UrbKey.noConfusion]; rfl
          | unlink seq =>
              show (pump.pendingUnlinks.erase unlinked.seq)[seq]? = _
              simp only [lookup_erase, UrbKey.unlink.injEq, eq_comm]
              rfl
  | _ => exact h.elim

/-- An answer goes to the caller that is registered for it. -/
theorem Pump.dispatch_tells (pump : Pump) {msg : Message} (h : AnswerFor asked msg)
    (hkey : urbKey msg = some key) (hpending : pump.pending key = some id) :
    (pump.dispatch msg).1.tells id key = true := by
  cases msg with
  | urbComplete complete =>
      cases hkey
      replace hpending : pump.pendingUrbs[complete.seq]? = some id := hpending
      simp only [Pump.dispatch, hpending, Told.tells, lookup_singleton, if_true, Option.isSome_some]
  | urbUnlinked unlinked =>
      cases hkey
      replace hpending : pump.pendingUnlinks[unlinked.seq]? = some id := hpending
      simp only [Pump.dispatch, hpending, Told.tells, lookup_singleton, if_true, Option.isSome_some]
  | _ => exact h.elim

/-- Whoever still waits was waiting, and was not told. -/
theorem ClientWorld.Awaits.of_tell {told : Told} (urbs : w'.urbs = (w.tell told).urbs)
    (unlinks : w'.unlinks = (w.tell told).unlinks) (h : w'.Awaits base baseUnlinks id key) :
    w.Awaits base baseUnlinks id key ∧ told.tells id key = false := by
  cases key with
  | urb seq =>
      obtain ⟨hbase, urb, hcall, hseq⟩ := h
      rw [urbs] at hcall
      obtain ⟨hbefore, hnone⟩ := (deliver_unanswered_iff urb).mp hcall
      exact ⟨⟨hbase, urb, hbefore, hseq⟩, by rw [Told.tells, hnone]; rfl⟩
  | unlink seq =>
      obtain ⟨hbase, request, hcall, hseq⟩ := h
      rw [unlinks] at hcall
      obtain ⟨hbefore, hnone⟩ := (deliver_unanswered_iff request).mp hcall
      exact ⟨⟨hbase, request, hbefore, hseq⟩, by rw [Told.tells, hnone]; rfl⟩

end

/-! ## What is registered is on its way -/

section

variable {platform : Platform} {base baseUnlinks : Nat} {deviceId : DeviceId}
  {owner : PeerFingerprint} {token : PresenceToken} {w w' : LinkedWorld} {act : LinkedAction}
  {key : UrbKey}

theorem LinkedWorld.Carries.client (h : w.Carries key) (server : w'.server = w.server)
    (session : w'.session = w.session) (toServer : ∀ sent ∈ w.client.toServer, sent ∈ w'.client.toServer)
    (toClient : ∀ arriving ∈ w.client.toClient, arriving ∈ w'.client.toClient) : w'.Carries key := by
  cases h with
  | toServer mem keyed => exact .toServer (toServer _ mem) keyed
  | session carries =>
      refine .session ?_
      rw [server, session]
      exact carries
  | toClient mem keyed => exact .toClient (toClient _ mem) keyed

/-- A session that has to end is not open. -/
theorem World.not_open_of_fail {server server' : World} {s : Nat}
    (taken : server.step platform (.fail s) = some server') : ¬ server'.Open s := by
  intro hopen
  cases World.step_cases taken with
  | fail found =>
      have hjoining := (hopen.of_set found rfl).1
      cases hjoining

/-- Only the client takes anything off. -/
theorem LinkedWorld.Carries.step (h : w.Carries key)
    (hhonest : w.Honest base baseUnlinks deviceId owner token) (hup : w.client.pump.isSome = true)
    (hopen' : w'.server.Open w'.session) (taken : w.step platform act = some w')
    (hread : act ≠ .client .read) : w'.Carries key := by
  cases LinkedWorld.step_cases taken with
  | @client act client atClient htaken =>
      cases ClientWorld.step_cases htaken with
      | took =>
          exact h.client rfl rfl (fun sent mem => List.mem_append_left _ mem) fun _ mem => mem
      | read => exact absurd rfl hread
      | urbDown | urb | unlinkDown | unlink | controlDown | control | takeFailed | stop =>
          exact h.client rfl rfl (fun _ mem => mem) fun _ mem => mem
      | reconnect | receive | complete | reply => cases atClient
  | reconnect down =>
      rw [down] at hup
      cases hup
  | @delivered sent toServer server head carried htaken =>
      have hrequest := hhonest.client.sent sent (by rw [head]; exact List.mem_cons_self)
      cases h with
      | toServer mem keyed =>
          rw [head] at mem
          rcases List.mem_cons.mp mem with rfl | mem
          · exact .session (hhonest.serves.received hrequest htaken keyed)
          · exact .toServer mem keyed
      | session carries =>
          exact .session (carries.step hhonest.serves htaken hopen' Action.noConfusion)
      | toClient mem keyed => exact .toClient mem keyed
  | garbled head lost htaken => exact absurd hopen' (World.not_open_of_fail htaken)
  | write htaken =>
      cases h with
      | toServer mem keyed => exact .toServer mem keyed
      | toClient mem keyed => exact .toClient (List.mem_append_left _ mem) keyed
      | session carries =>
          rcases carries.write htaken hopen' with hcarries | ⟨session, msg, found, hhead, hcarry, hkey⟩
          · exact .session hcarries
          · refine @LinkedWorld.Carries.toClient _ key ⟨msg, none⟩ (List.mem_append_right _ ?_) hkey
            simp [LinkedWorld.outgoing, found, hhead, hcarry]
  | @server act' server offLink htaken =>
      cases h with
      | toServer mem keyed => exact .toServer mem keyed
      | toClient mem keyed => exact .toClient mem keyed
      | session carries =>
          refine .session (carries.step hhonest.serves htaken hopen' ?_)
          rintro rfl
          simp [Action.onLink] at offLink

/-- The client takes an answer off. -/
theorem LinkedWorld.Carries.read (h : w.Carries key) {arriving : Arriving}
    {toClient : List Arriving} (head : w.client.toClient = arriving :: toClient)
    (other : urbKey arriving.msg ≠ some key) (server : w'.server = w.server)
    (session : w'.session = w.session) (toServer : w'.client.toServer = w.client.toServer)
    (rest : w'.client.toClient = toClient) : w'.Carries key := by
  cases h with
  | toServer mem keyed =>
      rw [← toServer] at mem
      exact .toServer mem keyed
  | session carries =>
      refine .session ?_
      rw [server, session]
      exact carries
  | toClient mem keyed =>
      rw [head] at mem
      rcases List.mem_cons.mp mem with rfl | mem
      · exact absurd keyed other
      · rw [← rest] at mem
        exact .toClient mem keyed

/-- A call is made. -/
theorem ClientWorld.awaits_append {client client' : ClientWorld} {cmd : ClientCmd}
    (queue : client'.queue = client.queue ++ [cmd])
    (calls : ∀ id key, client'.Awaits base baseUnlinks id key →
      client.Awaits base baseUnlinks id key ∨ urbKey cmd.message = some key ∧ cmd.reply = id)
    {pump : Pump} {id : Nat}
    (before : client.Awaits base baseUnlinks id key →
      (∃ cmd ∈ client.queue, urbKey cmd.message = some key ∧ cmd.reply = id) ∨
        pump.pending key = some id)
    (h : client'.Awaits base baseUnlinks id key) :
    (∃ cmd ∈ client'.queue, urbKey cmd.message = some key ∧ cmd.reply = id) ∨
      pump.pending key = some id := by
  rw [queue]
  rcases calls id key h with hbefore | hnow
  · refine (before hbefore).imp_left ?_
    rintro ⟨cmd', mem, hcmd⟩
    exact ⟨cmd', List.mem_append_left _ mem, hcmd⟩
  · exact .inl ⟨cmd, List.mem_append_right _ (List.mem_singleton_self cmd), hnow⟩

theorem ClientWorld.awaits_urb {client : ClientWorld} {submit : UrbSubmit} {id : Nat}
    (h : ClientWorld.Awaits base baseUnlinks
      { client with
        urbs := client.urbs ++ [⟨submit, none⟩]
        queue := client.queue ++ [.urb submit client.urbs.length] } id key) :
    client.Awaits base baseUnlinks id key ∨
      urbKey (ClientCmd.urb submit client.urbs.length).message = some key ∧
        (ClientCmd.urb submit client.urbs.length).reply = id := by
  cases key with
  | unlink seq => exact .inl h
  | urb seq =>
      obtain ⟨hbase, urb, hcall, hseq⟩ := h
      rw [List.getElem?_append] at hcall
      split at hcall
      · exact .inl ⟨hbase, urb, hcall, hseq⟩
      · rw [List.getElem?_singleton] at hcall
        split at hcall <;> cases hcall
        refine .inr ⟨congrArg (fun seq => some (UrbKey.urb seq)) hseq, ?_⟩
        show client.urbs.length = id
        omega

theorem ClientWorld.awaits_unlink {client : ClientWorld} {request : UrbUnlink} {id : Nat}
    (h : ClientWorld.Awaits base baseUnlinks
      { client with
        unlinks := client.unlinks ++ [⟨request, none⟩]
        queue := client.queue ++ [.unlink request client.unlinks.length] } id key) :
    client.Awaits base baseUnlinks id key ∨
      urbKey (ClientCmd.unlink request client.unlinks.length).message = some key ∧
        (ClientCmd.unlink request client.unlinks.length).reply = id := by
  cases key with
  | urb seq => exact .inl h
  | unlink seq =>
      obtain ⟨hbase, request', hcall, hseq⟩ := h
      rw [List.getElem?_append] at hcall
      split at hcall
      · exact .inl ⟨hbase, request', hcall, hseq⟩
      · rw [List.getElem?_singleton] at hcall
        split at hcall <;> cases hcall
        refine .inr ⟨congrArg (fun seq => some (UrbKey.unlink seq)) hseq, ?_⟩
        show client.unlinks.length = id
        omega

/-- A call is made, and the pump has not seen it yet. -/
theorem LinkedWorld.Tracked.called (h : w.Tracked base baseUnlinks) {client : ClientWorld}
    {cmd : ClientCmd} (pump : client.pump = w.client.pump)
    (carries : ∀ key, w.Carries key → LinkedWorld.Carries { w with client } key)
    (queue : client.queue = w.client.queue ++ [cmd])
    (calls : ∀ id key, client.Awaits base baseUnlinks id key →
      w.client.Awaits base baseUnlinks id key ∨ urbKey cmd.message = some key ∧ cmd.reply = id) :
    LinkedWorld.Tracked base baseUnlinks { w with client } where
  carried pump' up key id hpending := by
    rw [pump] at up
    exact carries key (h.carried pump' up key id hpending)
  waiting pump' up key id hawaits := by
    rw [pump] at up
    exact ClientWorld.awaits_append queue calls (h.waiting pump' up key id) hawaits

/-- A command is written, and its caller registered. -/
theorem LinkedWorld.Tracked.took (h : w.Tracked base baseUnlinks) {pump : Pump} {cmd : ClientCmd}
    {queue : List ClientCmd} (up : w.client.pump = some pump)
    (head : w.client.queue = cmd :: queue) :
    LinkedWorld.Tracked base baseUnlinks { w with
      client := { w.client.tell (pump.register cmd).1 with
        queue
        pump := some (pump.register cmd).2
        toServer := w.client.toServer ++ [⟨cmd.message, cmd.reply⟩] } } where
  carried pump' up' key id hpending := by
    cases up'
    rw [pump.pending_register cmd key] at hpending
    split at hpending
    · rename_i hkey
      exact .toServer (List.mem_append_right _ (List.mem_singleton_self _)) hkey
    · exact (h.carried pump up key id hpending).client rfl rfl
        (fun sent mem => List.mem_append_left _ mem) fun _ mem => mem
  waiting pump' up' key id hawaits := by
    cases up'
    obtain ⟨hbefore, hnot⟩ := ClientWorld.Awaits.of_tell (w := w.client) rfl rfl hawaits
    rw [pump.pending_register cmd key]
    rcases h.waiting pump up key id hbefore with ⟨cmd', mem, hkey, hreply⟩ | hpending
    · rw [head] at mem
      rcases List.mem_cons.mp mem with rfl | mem
      · rw [if_pos hkey, hreply]
        exact .inr rfl
      · exact .inl ⟨cmd', mem, hkey, hreply⟩
    · split
      · rename_i hkey
        rw [pump.register_tells cmd hkey hpending] at hnot
        cases hnot
      · exact .inr hpending

/-- An answer is read, and its caller told. -/
theorem LinkedWorld.Tracked.read (h : w.Tracked base baseUnlinks)
    (hhonest : w.client.Honest base deviceId) {pump : Pump} {arriving : Arriving}
    {toClient : List Arriving} (up : w.client.pump = some pump)
    (head : w.client.toClient = arriving :: toClient) :
    LinkedWorld.Tracked base baseUnlinks { w with
      client := { w.client.tell (pump.dispatch arriving.msg).1 with
        pump := some (pump.dispatch arriving.msg).2
        toClient } } := by
  have hanswer := hhonest.arriving arriving (by rw [head]; exact List.mem_cons_self)
  constructor
  · intro pump' up' key id hpending
    cases up'
    rw [pump.pending_dispatch hanswer key] at hpending
    split at hpending
    · cases hpending
    · rename_i hother
      exact (h.carried pump up key id hpending).read head hother rfl rfl rfl rfl
  · intro pump' up' key id hawaits
    cases up'
    obtain ⟨hbefore, hnot⟩ := ClientWorld.Awaits.of_tell (w := w.client) rfl rfl hawaits
    rw [pump.pending_dispatch hanswer key]
    refine (h.waiting pump up key id hbefore).imp_right fun hpending => ?_
    split
    · rename_i hkey
      rw [pump.dispatch_tells hanswer hkey hpending] at hnot
      cases hnot
    · exact hpending

theorem LinkedWorld.Tracked.step (h : w.Tracked base baseUnlinks)
    (hhonest : w.Honest base baseUnlinks deviceId owner token)
    (hstanding : Standing deviceId owner w) (hopen' : w'.server.Open w'.session)
    (taken : w.step platform act = some w') : w'.Tracked base baseUnlinks := by
  have hup : ∀ {p : Prop}, w.client.pump = none → p := by
    intro p hdown
    have hup := hstanding.up
    rw [hdown] at hup
    cases hup
  -- the client stays as it is, but for the link
  have hkept : ∀ {client : ClientWorld}, w'.client = client → client.pump = w.client.pump →
      client.queue = w.client.queue → client.urbs = w.client.urbs →
      client.unlinks = w.client.unlinks → act ≠ .client .read → w'.Tracked base baseUnlinks := by
    intro client hclient pump queue urbs unlinks hread
    subst hclient
    constructor
    · intro pump' up key id hpending
      rw [pump] at up
      exact (h.carried pump' up key id hpending).step hhonest hstanding.up hopen' taken hread
    · intro pump' up key id hawaits
      rw [pump] at up
      rw [queue]
      refine h.waiting pump' up key id ?_
      cases key with
      | urb seq => exact ⟨hawaits.1, by rw [← urbs]; exact hawaits.2⟩
      | unlink seq => exact ⟨hawaits.1, by rw [← unlinks]; exact hawaits.2⟩
  cases LinkedWorld.step_cases taken with
  | @client act client atClient htaken =>
      cases ClientWorld.step_cases htaken with
      | urbDown _ down | unlinkDown _ down | controlDown _ down => exact hup down
      | urb submit up =>
          exact h.called rfl (fun key hcarries => hcarries.client rfl rfl (fun _ mem => mem)
            fun _ mem => mem) rfl fun id key => ClientWorld.awaits_urb
      | unlink request up =>
          exact h.called rfl (fun key hcarries => hcarries.client rfl rfl (fun _ mem => mem)
            fun _ mem => mem) rfl fun id key => ClientWorld.awaits_unlink
      | control req up =>
          refine h.called rfl (fun key hcarries => hcarries.client rfl rfl (fun _ mem => mem)
            fun _ mem => mem) rfl fun id key hawaits => .inl ?_
          cases key <;> exact hawaits
      | took up head => exact h.took up head
      | read up head => exact h.read hhonest.client up head
      | takeFailed | stop =>
          constructor
          · intro pump up
            cases up
          · intro pump up
            cases up
      | reconnect | receive | complete | reply => cases atClient
  | reconnect down => exact hup down
  | delivered | garbled | write | server =>
      exact hkept rfl rfl rfl rfl rfl LinkedAction.noConfusion

/-- With nothing under way, nobody waits. -/
theorem LinkedWorld.Tracked.not_awaits (h : w.Tracked base baseUnlinks) {pump : Pump}
    (up : w.client.pump = some pump) (hqueue : w.client.queue = [])
    (hnone : ∀ key, ¬ w.Carries key) (id : Nat) (key : UrbKey) :
    ¬ w.client.Awaits base baseUnlinks id key := by
  intro hawaits
  rcases h.waiting pump up key id hawaits with ⟨cmd, mem, -⟩ | hpending
  · rw [hqueue] at mem
    cases mem
  · exact hnone key (h.carried pump up key id hpending)

end

/-! ## The work on a link -/

/-- A command is written, received, worked on at the session, answered, and the answer
read. -/
def LinkedWorld.urbWork (w : LinkedWorld) : Nat :=
  14 * w.client.queue.length + 13 * w.client.toServer.length + w.server.urbWork w.session +
    w.client.toClient.length

/-- The work that a step of the pump, of the link or of its session uses up. -/
def LinkedAction.uses (w : LinkedWorld) : LinkedAction → Nat
  | .client (.take (.ok _)) | .client .read | .deliver | .write => 1
  | .server act => act.uses w.server w.session
  | _ => 0

/-- A call brings work. -/
def LinkedAction.brings : LinkedAction → Nat
  | .client (.urb _) | .client (.unlink _) | .client (.control _) => 14
  | _ => 0

section

variable {platform : Platform} {base baseUnlinks : Nat} {deviceId : DeviceId}
  {owner : PeerFingerprint} {token : PresenceToken} {w w' : LinkedWorld} {act : LinkedAction}

theorem LinkedWorld.length_outgoing (w : LinkedWorld) : w.outgoing.length ≤ 1 := by
  unfold LinkedWorld.outgoing
  split
  · exact Option.length_toList_le
  · exact Nat.zero_le _

theorem Action.brings_of_offLink {act : Action} {s : Nat} (h : act.onLink s = false) :
    act.brings s = 0 := by
  cases act with
  | recv s' msg => exact if_neg (of_decide_eq_false h)
  | _ => rfl

theorem LinkedWorld.urbWork_step (hhonest : w.Honest base baseUnlinks deviceId owner token)
    (hup : w.client.pump.isSome = true) (hopen' : w'.server.Open w'.session)
    (taken : w.step platform act = some w') :
    w'.urbWork + act.uses w ≤ w.urbWork + act.brings := by
  unfold LinkedWorld.urbWork
  cases LinkedWorld.step_cases taken with
  | @client act client atClient htaken =>
      have htake : ∀ io, (LinkedAction.client (.take io)).uses w ≤ 1 := by
        intro io
        cases io <;> simp [LinkedAction.uses]
      cases ClientWorld.step_cases htaken with
      | urbDown | unlinkDown | controlDown => exact Nat.le_add_right _ _
      | urb | unlink | control =>
          simp only [List.length_append, List.length_singleton, LinkedAction.uses,
            LinkedAction.brings]
          omega
      | @took pump cmd queue io up head written =>
          have huses := htake io
          simp only [ClientWorld.tell, head, List.length_append, List.length_cons, List.length_nil,
            LinkedAction.brings]
          omega
      | @takeFailed pump cmd queue io err up head failed =>
          have huses := htake io
          simp only [ClientWorld.shutdown, ClientWorld.tell, head, List.length_cons,
            List.length_nil, LinkedAction.brings]
          omega
      | read up head =>
          simp only [ClientWorld.tell, head, List.length_cons, LinkedAction.uses,
            LinkedAction.brings]
          omega
      | stop =>
          simp only [ClientWorld.shutdown, ClientWorld.tell, List.length_nil, LinkedAction.uses,
            LinkedAction.brings]
          omega
      | reconnect | receive | complete | reply => cases atClient
  | reconnect down =>
      rw [down] at hup
      cases hup
  | @delivered sent toServer server head carried htaken =>
      have hserver := World.urbWork_step hhonest.serves htaken hopen'
      rw [Action.brings, if_pos rfl] at hserver
      simp only [head, List.length_cons, Action.uses, LinkedAction.uses, LinkedAction.brings]
        at hserver ⊢
      omega
  | garbled head lost htaken => exact absurd hopen' (World.not_open_of_fail htaken)
  | write htaken =>
      have hserver := World.urbWork_step hhonest.serves htaken hopen'
      have hlength := w.length_outgoing
      rw [Action.uses, if_pos rfl] at hserver
      simp only [List.length_append, Action.brings, LinkedAction.uses, LinkedAction.brings]
        at hserver ⊢
      omega
  | server offLink htaken =>
      have hserver := World.urbWork_step hhonest.serves htaken hopen'
      rw [Action.brings_of_offLink offLink] at hserver
      simp only [LinkedAction.uses, LinkedAction.brings]
      omega

/-! ## The link does not bring itself down -/

theorem Session.Serves.open {asked : UrbSubmit → Prop} {session : Session}
    (h : session.Serves asked deviceId owner token) {server : World} {s : Nat}
    (found : server.sessions[s]? = some session) : server.Open s := by
  have hpc := h.pc
  refine ⟨session, found, ?_, ?_⟩
  · unfold Session.joining
    split
    · rename_i hcase
      rw [hcase] at hpc
      exact hpc.elim
    · rename_i hcase
      rw [hcase] at hpc
      exact hpc.elim
    · rfl
  · intro hcase
    rw [hcase] at hpc
    exact hpc.elim

theorem Session.Serves.advance_server {asked : UrbSubmit → Prop} {session : Session}
    {now : Instant} {draw : Draw} {server : ServerState} {s : Nat} {outcome : Outcome}
    (h : session.Serves asked deviceId owner token)
    (entered : session.AdvanceCases platform now draw server s outcome) :
    outcome.server = server := by
  have hpc := h.pc
  cases entered with
  | pinAccepted pc | pinRefused pc | issued pc | attached pc | detached pc =>
      rw [pc] at hpc
      exact hpc.elim
  | _ => rfl

theorem Entitled.congr {server server' : World} (h : Entitled deviceId owner server)
    (state : server'.server = server.server) (now : server'.now = server.now) :
    Entitled deviceId owner server' := by
  obtain ⟨hcompleter, hemulated, hleased, hactive⟩ := h
  constructor
  · rw [state]
    exact hcompleter
  · rw [state]
    exact hemulated
  · rw [state]
    exact hleased
  · rw [state, now]
    exact hactive

theorem LinkedWorld.Honest.asked_encodable
    (h : w.Honest base baseUnlinks deviceId owner token) {urb : UrbSubmit}
    (hasked : w.client.AskedSince base urb) : UrbFor deviceId urb := by
  obtain ⟨id, hid, hcall⟩ := hasked
  exact h.client.urbs id urb hid hcall

/-- What is in the channel can be written. -/
theorem LinkedWorld.Honest.queued_encodable
    (h : w.Honest base baseUnlinks deviceId owner token) {cmd : ClientCmd}
    (mem : cmd ∈ w.client.queue) : Encodable cmd.message := by
  apply ClientCmd.encodable
  rintro submit reply rfl
  obtain ⟨hbase, hcall⟩ := h.client.queued _ mem
  exact (h.client.urbs reply submit hbase ⟨none, hcall⟩).2

theorem LinkedWorld.Honest.sent_carried
    (h : w.Honest base baseUnlinks deviceId owner token) {sent : Sent}
    (mem : sent ∈ w.client.toServer) : carry sent.msg = some sent.msg :=
  carry_of_encodable ((h.client.sent sent mem).encodable fun _ hasked =>
    (h.asked_encodable hasked).2)

/-- The session's own steps leave the rest of the server alone. -/
theorem LinkedWorld.Honest.server_kept (h : w.Honest base baseUnlinks deviceId owner token)
    (hentitled : Entitled deviceId owner w.server) {act : Action} {server : World}
    (own : 0 < act.uses w.server w.session ∨ ∃ sent ∈ w.client.toServer, act = .recv w.session sent.msg)
    (taken : w.server.step platform act = some server) :
    server.server = w.server.server ∧ server.now = w.server.now ∧ server.Open w.session := by
  obtain ⟨session, found, hsession⟩ := h.serves.session
  have hself : ∀ {new : Session}, (w.server.sessions.set w.session new)[w.session]? = some new :=
    lookup_set_self found _
  cases World.step_cases taken with
  | @recv i old msg hfound pc =>
      rcases own with huses | ⟨sent, mem, hact⟩
      · cases huses
      · cases hact
        obtain rfl : session = old := Option.some.inj (found.symm.trans hfound)
        exact ⟨rfl, rfl, (hsession.dispatch (h.client.sent sent mem)).open hself⟩
  | @advance i old draw outcome hfound htaken =>
      rcases own with huses | ⟨sent, mem, hact⟩
      · simp only [Action.uses] at huses
        split at huses
        · rename_i hi
          subst hi
          obtain rfl : session = old := Option.some.inj (found.symm.trans hfound)
          have hentered := Session.advance_cases htaken
          obtain ⟨hserves, -⟩ := hsession.advance hentitled h.serves.present
            (fun urb hasked => (h.asked_encodable hasked).1) hentered
          exact ⟨hsession.advance_server hentered, rfl, hserves.open hself⟩
        · cases huses
      · cases hact
  | @write i old msg queue pc hfound joining head kept =>
      rcases own with huses | ⟨sent, mem, hact⟩
      · simp only [Action.uses] at huses
        split at huses
        · rename_i hi
          subst hi
          obtain rfl : session = old := Option.some.inj (found.symm.trans hfound)
          obtain ⟨session', msg', queue', found', -, head', hcases⟩ := World.write_cases taken
          obtain rfl : session = session' := Option.some.inj (found.symm.trans found')
          have hcarried : carry msg' = some msg' := by
            apply carry_of_encodable
            refine (hsession.queue msg' ?_).encodable
            rw [head']
            exact List.mem_cons_self
          rcases hcases with ⟨-, hkept⟩ | ⟨hlost, -⟩
          · rw [hkept]
            refine ⟨rfl, rfl, ?_⟩
            have hserves : Session.Serves (w.client.AskedSince base) deviceId owner token
                { session with queue := queue' } := by
              refine ⟨hsession.principal, hsession.pc, fun msg mem => hsession.queue msg ?_⟩
              rw [head']
              exact List.mem_cons_of_mem _ mem
            exact hserves.open hself
          · rw [hcarried] at hlost
            cases hlost
        · cases huses
      · cases hact
  | @task index task old reached io pc hfound home htaken reach =>
      rcases own with huses | ⟨sent, mem, hact⟩
      · simp only [Action.uses, hfound] at huses
        split at huses
        · rename_i hi
          obtain rfl : session = old := by
            rw [hi] at home
            exact Option.some.inj (found.symm.trans home)
          have htask := h.serves.tasks task (List.mem_of_getElem? hfound) hi
          refine ⟨rfl, rfl, (htask.reach hsession reach).open ?_⟩
          show (w.server.sessions.set task.session reached)[w.session]? = some reached
          rw [hi]
          exact hself
        · cases huses
      · cases hact
  | tick | refreshHostDevices | renewExpiredPin | accept | eof | fail | joined | release =>
      rcases own with huses | ⟨sent, mem, hact⟩
      · cases huses
      · cases hact

/-- The pump, the link and the session keep the link up by themselves. -/
theorem Standing.own_step (h : Standing deviceId owner w)
    (hhonest : w.Honest base baseUnlinks deviceId owner token) (own : 0 < act.uses w)
    (taken : w.step platform act = some w') : Standing deviceId owner w' := by
  cases LinkedWorld.step_cases taken with
  | @client act client atClient htaken =>
      cases ClientWorld.step_cases htaken with
      | took | read => exact ⟨rfl, h.opened, h.entitled⟩
      | @takeFailed pump cmd queue io err up head failed =>
          cases io with
          | error kind => cases own
          | ok done =>
              have hmem : cmd ∈ w.client.queue := by
                rw [head]
                exact List.mem_cons_self
              rw [writeMessage_of_encodable (hhonest.queued_encodable hmem)] at failed
              cases failed
      | urbDown | urb | unlinkDown | unlink | controlDown | control | stop | reconnect | receive
      | complete | reply => cases own
  | reconnect => cases own
  | @delivered sent toServer server head carried htaken =>
      obtain ⟨hstate, hnow, hopen⟩ := hhonest.server_kept h.entitled
        (.inr ⟨sent, by rw [head]; exact List.mem_cons_self, rfl⟩) htaken
      exact ⟨h.up, hopen, h.entitled.congr hstate hnow⟩
  | @garbled sent toServer server head lost htaken =>
      rw [hhonest.sent_carried (by rw [head]; exact List.mem_cons_self)] at lost
      cases lost
  | @write server htaken =>
      obtain ⟨hstate, hnow, hopen⟩ := hhonest.server_kept h.entitled
        (.inl (by rw [Action.uses, if_pos rfl]; exact Nat.two_pos)) htaken
      exact ⟨h.up, hopen, h.entitled.congr hstate hnow⟩
  | server offLink htaken =>
      obtain ⟨hstate, hnow, hopen⟩ := hhonest.server_kept h.entitled (.inl own) htaken
      exact ⟨h.up, hopen, h.entitled.congr hstate hnow⟩

/-! ## The link does not get stuck -/

/-- A session that is dealt with everything waits for the next message. -/
theorem Session.Serves.reading_of_idle {asked : UrbSubmit → Prop} {session : Session}
    (h : session.Serves asked deviceId owner token) (hidle : session.pc.idle = true) :
    session.pc = .reading := by
  have hpc := h.pc
  cases hcase : session.pc with
  | reading => rfl
  | draining | closing | ended =>
      rw [hcase] at hpc
      exact hpc.elim
  | _ =>
      rw [hcase] at hidle
      cases hidle

/-- With nothing to carry and nothing to do at the session there is nothing under way. -/
theorem LinkedWorld.Honest.not_carries (h : w.Honest base baseUnlinks deviceId owner token)
    (toServer : w.client.toServer = []) (toClient : w.client.toClient = [])
    (settled : w.server.Settled w.session) (empty : w.server.queue w.session = []) (key : UrbKey) :
    ¬ w.Carries key := by
  obtain ⟨session, found, hsession⟩ := h.serves.session
  intro hcarries
  cases hcarries with
  | toServer mem =>
      rw [toServer] at mem
      cases mem
  | toClient mem =>
      rw [toClient] at mem
      cases mem
  | session carries =>
      cases carries with
      | reader found' hkey =>
          rw [found] at found'
          cases found'
          rw [hsession.reading_of_idle (settled.2 session found)] at hkey
          cases hkey
      | queued found' mem =>
          rw [World.queue_of_found found'] at empty
          rw [empty] at mem
          cases mem
      | task found' home unfinished =>
          exact unfinished (settled.1 _ (List.mem_of_getElem? found') home)

/-- As long as anything is under way, the pump, the link or the session can go on. -/
theorem LinkedWorld.Honest.goes_on (h : w.Honest base baseUnlinks deviceId owner token)
    (hstanding : Standing deviceId owner w) (hpermits : Permits w.server) :
    (w.client.queue = [] ∧ ∀ key, ¬ w.Carries key) ∨
      ∃ act : LinkedAction, 0 < act.uses w ∧ (w.step platform act).isSome = true := by
  obtain ⟨pump, up⟩ := Option.isSome_iff_exists.mp hstanding.up
  obtain ⟨session, found, hsession⟩ := h.serves.session
  cases toClient : w.client.toClient with
  | cons arriving toClient =>
      refine .inr ⟨.client .read, Nat.one_pos, ?_⟩
      simp only [LinkedWorld.step, ClientAction.atClient, ClientWorld.step, up, toClient]
      rfl
  | nil =>
  cases empty : w.server.queue w.session with
  | cons msg queue =>
      rw [World.queue_of_found found] at empty
      obtain ⟨session', found', joining, -⟩ := hsession.open found
      rw [found] at found'
      cases found'
      refine .inr ⟨.write, Nat.one_pos, ?_⟩
      simp only [LinkedWorld.step, World.step, found, joining, empty, Option.bind_eq_bind,
        Option.bind_some, if_true]
      split <;> rfl
  | nil =>
  have hserver : w.server.Settled w.session ∨ ∃ act : Action, 0 < act.uses w.server w.session ∧
      act.onLink w.session = false ∧ (w.server.step platform act).isSome = true :=
    h.serves.goes_on hpermits empty
  rcases hserver with settled | ⟨act, huses, offLink, henabled⟩
  · cases toServer : w.client.toServer with
    | cons sent toServer =>
        have hreading := hsession.reading_of_idle (settled.2 session found)
        refine .inr ⟨.deliver, Nat.one_pos, ?_⟩
        have hcarry : carry sent.msg = some sent.msg := by
          apply h.sent_carried
          rw [toServer]
          exact List.mem_cons_self
        simp only [LinkedWorld.step, toServer, hcarry, World.step, found, hreading,
          Option.bind_eq_bind, Option.bind_some]
        rfl
    | nil =>
        cases queue : w.client.queue with
        | nil => exact .inl ⟨rfl, h.not_carries toServer toClient settled empty⟩
        | cons cmd queue' =>
            refine .inr ⟨.client (.take (.ok ())), Nat.one_pos, ?_⟩
            simp only [LinkedWorld.step, ClientAction.atClient, ClientWorld.step, up, queue,
              Option.bind_eq_bind, Option.bind_some, if_true]
            split <;> rfl
  · refine .inr ⟨.server act, huses, ?_⟩
    obtain ⟨server, taken⟩ := Option.isSome_iff_exists.mp henabled
    simp only [LinkedWorld.step, offLink, taken, Bool.false_eq_true, if_false]
    rfl

end

end FarBus.Core
