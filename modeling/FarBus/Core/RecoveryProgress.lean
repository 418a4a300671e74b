/-
  Core/RecoveryProgress.lean --- the calls of `urb_with_recovery` return.

  A run comes to an end, since every step uses up some of the work that is left, and it
  does not get stuck before: the call that holds the mutex of the client can go on, and
  if nobody holds it so can every call, or the pump a call waits on, or the link of that
  pump, or the server.
-/
import FarBus.Foundation.Conservation
import FarBus.Core.RecoveryRuns

set_option autoImplicit false

namespace FarBus.Core

open FarBus.Foundation
open FarBus.Protocol

/-! ## Where the URB of a call is -/

/-- A call that has not returned is in the channel, or its URB is in transit. -/
def Tracked (link : ClientWorld) : Prop :=
  ∀ (id : Nat) urb, link.urbs[id]? = some ⟨urb, none⟩ →
    id ∈ link.queuedUrbs ∨ (urb.seq, id) ∈ link.transit

section

variable {link link' : ClientWorld} {act : ClientAction} {history : ClientHistory}

/-- Nobody is called anew, and what is in the channel and in transit stays there. -/
theorem Tracked.frame (h : Tracked link)
    (urbs : ∀ (id : Nat) urb, link'.urbs[id]? = some ⟨urb, none⟩ → link.urbs[id]? = some ⟨urb, none⟩)
    (queued : link'.queuedUrbs = link.queuedUrbs) (transit : link'.transit.Perm link.transit) :
    Tracked link' := by
  intro id urb hcall
  rw [queued, transit.mem_iff]
  exact h id urb (urbs id urb hcall)

/-- Without a pump nobody waits. -/
theorem Routed.tracked (h : Routed link) (down : link.pump = none) : Tracked link :=
  fun id urb hcall => absurd hcall ((h.down down).2 id urb)

theorem Tracked.took (h : Tracked link) (hrouted : Routed link) {pump : Pump} {cmd : ClientCmd}
    {queue : List ClientCmd} (head : link.queue = cmd :: queue) :
    Tracked
      { link.tell (pump.register cmd).1 with
        queue
        pump := some (pump.register cmd).2
        toServer := link.toServer ++ [⟨cmd.message, cmd.reply⟩] } := by
  intro id urb hcall
  obtain ⟨hbefore, -⟩ := (deliver_unanswered_iff urb).mp hcall
  have htransit := @transit_take link
    { link.tell (pump.register cmd).1 with
      queue
      pump := some (pump.register cmd).2
      toServer := link.toServer ++ [⟨cmd.message, cmd.reply⟩] } cmd rfl rfl rfl
  have hmoves : ∀ entry, entry ∈ ((⟨cmd.message, cmd.reply⟩ : Sent).submitted).toList ∨
      entry ∈ link.transit → entry ∈ ClientWorld.transit _ :=
    fun entry mem => htransit.mem_iff.mpr (List.mem_append.mpr mem)
  rcases h id urb hbefore with hqueued | hmoving
  · rw [ClientWorld.queuedUrbs, head, List.filterMap_cons] at hqueued
    cases cmd with
    | control | unlink => exact .inl hqueued
    | urb written reply =>
        rcases List.mem_cons.mp hqueued with rfl | hqueued
        · -- the one that is written
          have hwritten : link.urbs[id]? = some ⟨written, none⟩ := by
            apply hrouted.queued
            rw [head]
            exact List.mem_cons_self
          obtain rfl : written = urb := by
            rw [hbefore] at hwritten
            cases hwritten
            rfl
          exact .inr (hmoves _ (.inl (List.mem_singleton.mpr rfl)))
        · exact .inl hqueued
  · exact .inr (hmoves _ (.inr hmoving))

theorem Tracked.read (h : Tracked link) (hrouted : Routed link) (htraced : Traced history link)
    {pump : Pump} {arriving : Arriving} {toClient : List Arriving} (up : link.pump = some pump)
    (head : link.toClient = arriving :: toClient) :
    Tracked
      { link.tell (pump.dispatch arriving.msg).1 with
        pump := some (pump.dispatch arriving.msg).2
        toClient } := by
  have hbefore : ∀ (id : Nat) urb, (link.tell (pump.dispatch arriving.msg).1).urbs[id]? =
      some ⟨urb, none⟩ → link.urbs[id]? = some ⟨urb, none⟩ :=
    fun id urb hcall => ((deliver_unanswered_iff urb).mp hcall).1
  cases hmsg : isUrbComplete arriving.msg with
  | false => exact h.frame hbefore rfl (transit_readOther head hmsg rfl rfl rfl)
  | true =>
      obtain ⟨complete, hmsg⟩ := exists_of_isUrbComplete hmsg
      obtain ⟨id', urb', hcompleted, -, -, hdispatch⟩ :=
        hrouted.dispatch_complete htraced up head hmsg
      have htransit := @transit_read link
        { link.tell (pump.dispatch arriving.msg).1 with
          pump := some (pump.dispatch arriving.msg).2
          toClient } arriving toClient head rfl rfl rfl
      rw [hcompleted, Option.toList_some, List.singleton_append] at htransit
      intro id urb hcall
      have hnone := ((deliver_unanswered_iff urb).mp hcall).2
      rw [hdispatch, lookup_singleton] at hnone
      refine (h id urb (hbefore id urb hcall)).imp_right fun hmoving => ?_
      rcases List.mem_cons.mp (htransit.mem_iff.mp hmoving) with heq | hmoving
      · rw [Prod.mk.injEq] at heq
        rw [if_pos heq.2] at hnone
        cases hnone
      · exact hmoving

theorem Tracked.step (h : Tracked link) (hrouted : Routed link) (hrouted' : Routed link')
    (htraced : Traced history link) (taken : link.step act = some link') : Tracked link' := by
  cases ClientWorld.step_cases taken with
  | urbDown _ down => exact hrouted'.tracked down
  | urb urb up =>
      intro id urb' hcall
      have hqueued : ∀ id, id ∈ link.queuedUrbs ∨ id = link.urbs.length →
          id ∈ (link.queue ++ [ClientCmd.urb urb link.urbs.length]).filterMap ClientCmd.urbReply := by
        intro id mem
        rw [List.filterMap_append, List.mem_append]
        exact mem.imp_right fun heq => List.mem_singleton.mpr heq
      rw [List.getElem?_append] at hcall
      split at hcall
      · exact (h id urb' hcall).imp_left fun mem => hqueued id (.inl mem)
      · rw [List.getElem?_singleton] at hcall
        split at hcall
        · exact .inl (hqueued id (.inr (by omega)))
        · cases hcall
  | unlink | control =>
      refine h.frame (fun _ _ hcall => hcall) ?_ (List.Perm.refl _)
      unfold ClientWorld.queuedUrbs
      rw [List.filterMap_append]
      exact List.append_nil _
  | took up head written => exact h.took hrouted head
  | takeFailed | stop => exact hrouted'.tracked rfl
  | read up head => exact h.read hrouted htraced up head
  | reconnect down => exact fun id urb hcall => absurd hcall ((hrouted.down down).2 id urb)
  | receive head =>
      exact h.frame (fun _ _ hcall => hcall) rfl (transit_receive head rfl rfl rfl)
  | complete found seq =>
      exact h.frame (fun _ _ hcall => hcall) rfl (transit_complete found seq rfl rfl rfl)
  | reply other => exact h.frame (fun _ _ hcall => hcall) rfl (transit_reply rfl rfl rfl)
  | unlinkDown | controlDown => exact h

theorem tracked_run (run : ClientWorld.Runs history link) (hfree : ∀ t ∈ history, ¬ Collides t) :
    Tracked link := by
  induction run with
  | nil => nofun
  | @snoc history pre post act run taken ih =>
      have hearlier : ∀ t ∈ history, ¬ Collides t := fun t ht => hfree t (List.mem_cons_of_mem _ ht)
      exact (ih hearlier).step (routed_run run hearlier).1 (routed_run (run.snoc taken) hfree).1
        (traced_run run) taken

end

/-! ## Who holds the mutex -/

/-- The call reconnects, with the client locked. -/
def RecoveryPc.locks : RecoveryPc → Bool
  | .connecting _ | .replacing _ _ | .storing _ _ | .greeting _ | .attaching _ => true
  | .cloning | .cloned | .sending _ | .waiting _ _ | .locking _ | .backingOff _ _ | .returned _ =>
      false

/-- The mutex is held by one call, which reconnects. -/
structure Exclusive (w : RecoveryWorld) : Prop where
  holder : ∀ index call, w.calls[index]? = some call → call.pc.locks = true → w.lock = some index
  held : ∀ index, w.lock = some index →
    ∃ call, w.calls[index]? = some call ∧ call.pc.locks = true

section

variable {w w' : RecoveryWorld} {act : RecoveryAction} {history : RecoveryHistory} {index : Nat}
  {call new : RecoveryCall}

/-- A call moves, and keeps the mutex if it has it. -/
theorem Exclusive.move (h : Exclusive w) (found : w.calls[index]? = some call)
    (hcalls : w'.calls = w.calls.set index new) (hlock : w'.lock = w.lock)
    (hpc : new.pc.locks = call.pc.locks) : Exclusive w' where
  holder i call' found' hlocks := by
    rw [hlock]
    rw [hcalls] at found'
    rcases lookup_set_cases found found' with ⟨rfl, -, rfl⟩ | ⟨-, hold⟩
    · exact h.holder index call found (hpc ▸ hlocks)
    · exact h.holder i call' hold hlocks
  held i hheld := by
    rw [hlock] at hheld
    obtain ⟨call', found', hlocks⟩ := h.held i hheld
    rw [hcalls]
    by_cases hi : index = i
    · subst hi
      obtain rfl := Option.some.inj (found.symm.trans found')
      exact ⟨new, lookup_set_self found new, hpc.trans hlocks⟩
    · exact ⟨call', (List.getElem?_set_ne hi).trans found', hlocks⟩

/-- A call takes the mutex. -/
theorem Exclusive.take (h : Exclusive w) (free : w.lock = none)
    (found : w.calls[index]? = some call) (hcalls : w'.calls = w.calls.set index new)
    (hlock : w'.lock = some index) (hpc : new.pc.locks = true) : Exclusive w' where
  holder i call' found' hlocks := by
    rw [hcalls] at found'
    rcases lookup_set_cases found found' with ⟨rfl, -, rfl⟩ | ⟨-, hold⟩
    · exact hlock
    · have hheld := h.holder i call' hold hlocks
      rw [free] at hheld
      cases hheld
  held i hheld := by
    rw [hlock] at hheld
    cases hheld
    rw [hcalls]
    exact ⟨new, lookup_set_self found new, hpc⟩

/-- The call that has the mutex gives it back. -/
theorem Exclusive.give (h : Exclusive w) (found : w.calls[index]? = some call)
    (hheld : call.pc.locks = true) (hcalls : w'.calls = w.calls.set index new)
    (hlock : w'.lock = none) (hpc : new.pc.locks = false) : Exclusive w' where
  holder i call' found' hlocks := by
    rw [hcalls] at found'
    rcases lookup_set_cases found found' with ⟨-, -, rfl⟩ | ⟨hother, hold⟩
    · rw [hpc] at hlocks
      cases hlocks
    · -- two calls would have it
      have hsame := (h.holder index call found hheld).symm.trans (h.holder i call' hold hlocks)
      exact absurd (Option.some.inj hsame) hother
  held i hheld' := by
    rw [hlock] at hheld'
    cases hheld'

theorem Exclusive.step (h : Exclusive w) (taken : w.step act = some w') : Exclusive w' := by
  cases RecoveryWorld.step_cases taken with
  | call urb =>
      refine ⟨?_, ?_⟩
      · intro i call' found' hlocks
        rw [List.getElem?_append] at found'
        split at found'
        · exact h.holder i call' found' hlocks
        · rw [List.getElem?_singleton] at found'
          split at found' <;> cases found'
          cases hlocks
      · intro i hheld
        obtain ⟨call', found', hlocks⟩ := h.held i hheld
        have hlt := (List.getElem?_eq_some_iff.mp found').1
        exact ⟨call', (List.getElem?_append_left hlt).trans found', hlocks⟩
  | cloned found pc | sender found pc | sent found pc | connected found pc | replaced found pc
  | stored found pc | greeted found pc | gaveUp found pc | backedOff found pc =>
      exact h.move found rfl rfl (by rw [pc]; rfl)
  | @resolved index pump id call link asked answer found pc open_ request answered =>
      refine h.move found rfl rfl ?_
      rw [pc]
      unfold RecoveryWorld.afterUrb
      split
      · rfl
      · split <;> rfl
  | locked found pc free => exact h.take free found rfl rfl rfl
  | attached found pc => exact h.give found (by rw [pc]; rfl) rfl rfl rfl
  | @failed index retries call act err found tried =>
      refine h.give found ?_ rfl rfl ?_
      · rcases tried with ⟨-, pc⟩ | ⟨-, pc⟩ | ⟨-, pc⟩ <;> rw [pc] <;> rfl
      · unfold RecoveryWorld.afterFailure
        split <;> rfl
  | pump => exact ⟨h.holder, h.held⟩

theorem exclusive_run (run : RecoveryWorld.Runs history w) : Exclusive w := by
  refine run.invariant Exclusive ⟨?_, ?_⟩ ?_
  · intro index call found
    cases found
  · intro index hlock
    cases hlock
  · intro pre act post h taken
    exact h.step taken

end

/-! ## Nobody is stuck -/

/-- Nothing can happen but new calls, as long as the links, the server and the handshakes
do what is supposed of them. -/
def Stuck (w : RecoveryWorld) : Prop :=
  ∀ act w', w.step act = some w' → Assumed ⟨w, act, w'⟩ → ∃ urb, act = .call urb

/-- The action is not a new call, and does what is supposed. -/
def RecoveryAction.goesOn : RecoveryAction → Bool
  | .call _ => false
  | .connect _ outcome | .hello _ outcome | .attach _ outcome => outcome.isOk
  | .pump _ act =>
      match act with
      | .take io => io.isOk
      | .complete _ complete => complete.status = 0
      | .stop => false
      | _ => true
  | .clone _ | .sender _ | .send _ | .result _ | .lock _ | .replace _ | .store _ | .backoff _ => true

section

variable {w w' : RecoveryWorld} {act : RecoveryAction} {history : RecoveryHistory}
  {index pump : Nat} {call : RecoveryCall} {link link' : ClientWorld}

theorem Assumed.of_goesOn (h : act.goesOn = true) : Assumed ⟨w, act, w'⟩ where
  links pump act' hact hends := by
    dsimp only at hact
    subst hact
    rcases hends with rfl | ⟨kind, rfl⟩ <;> cases h
  completes pump index complete hact := by
    dsimp only at hact
    subst hact
    exact of_decide_eq_true h
  succeeds index result hact := by
    cases result with
    | ok => rfl
    | error err =>
        dsimp only at hact
        rcases hact with rfl | rfl | rfl <;> cases h

theorem Stuck.not_step (h : Stuck w) (hstep : RecoveryWorld.StepCases w act w')
    (hgoesOn : act.goesOn = true) : False := by
  obtain ⟨urb, rfl⟩ := h act w' hstep.taken (.of_goesOn hgoesOn)
  cases hgoesOn

/-- The mutex is free. -/
theorem Stuck.free (h : Stuck w) (hexclusive : Exclusive w) : w.lock = none := by
  cases hlock : w.lock with
  | none => rfl
  | some index =>
      obtain ⟨call, found, hlocks⟩ := hexclusive.held index hlock
      cases hpc : call.pc with
      | connecting retries => exact (h.not_step (.connected found hpc) rfl).elim
      | replacing retries pump => exact (h.not_step (.replaced found hpc) rfl).elim
      | storing retries pump => exact (h.not_step (.stored found hpc) rfl).elim
      | greeting retries => exact (h.not_step (.greeted found hpc) rfl).elim
      | attaching retries => exact (h.not_step (.attached found hpc) rfl).elim
      | cloning | cloned | sending | waiting | locking | backingOff | returned =>
          rw [hpc] at hlocks
          cases hlocks

/-- A pump has nothing left to write, its link nothing to carry, and its server nothing
to complete. -/
theorem Stuck.idle (h : Stuck w) (open_ : w.pumps[pump]? = some link)
    (up : link.pump.isSome = true) :
    link.queue = [] ∧ link.toServer = [] ∧ link.outstanding = [] ∧ link.toClient = [] := by
  obtain ⟨running, up⟩ := Option.isSome_iff_exists.mp up
  have hnot : ∀ act : ClientAction, act.ofPump = true →
      (RecoveryAction.pump pump act).goesOn = true → ¬ ∃ link', link.step act = some link' := by
    intro act hofPump hgoesOn hstep
    obtain ⟨link', taken⟩ := hstep
    exact h.not_step (.pump open_ hofPump taken) hgoesOn
  refine ⟨?_, ?_, ?_, ?_⟩
  · cases hqueue : link.queue with
    | nil => rfl
    | cons cmd queue =>
        refine absurd ?_ (hnot (.take (.ok ())) rfl rfl)
        simp only [ClientWorld.step, up, hqueue, Option.bind_eq_bind, Option.bind_some]
        split <;> exact ⟨_, rfl⟩
  · cases htoServer : link.toServer with
    | nil => rfl
    | cons sent toServer =>
        refine absurd ?_ (hnot .receive rfl rfl)
        simp only [ClientWorld.step, htoServer]
        exact ⟨_, rfl⟩
  · cases houtstanding : link.outstanding with
    | nil => rfl
    | cons out outstanding =>
        refine absurd ?_
          (hnot (.complete 0 { seq := out.urb.seq, status := 0, data := [] }) rfl rfl)
        simp [ClientWorld.step, houtstanding]
  · cases htoClient : link.toClient with
    | nil => rfl
    | cons arriving toClient =>
        refine absurd ?_ (hnot .read rfl rfl)
        simp only [ClientWorld.step, up, htoClient, Option.bind_eq_bind, Option.bind_some]
        exact ⟨_, rfl⟩

/-- A URB can be sent, unless the channel is full and the pump has something to write. -/
theorem Stuck.not_sending (h : Stuck w) (found : w.calls[index]? = some call)
    (open_ : w.pumps[pump]? = some link) : call.pc ≠ .sending pump := by
  intro hpc
  have hsent : ∃ link', link.step (.urb call.urb) = some link' := by
    cases hup : link.pump with
    | none =>
        simp only [ClientWorld.step, hup]
        exact ⟨_, rfl⟩
    | some running =>
        obtain ⟨hqueue, -⟩ := h.idle open_ (by rw [hup]; rfl)
        simp only [ClientWorld.step, hup, ClientWorld.sendCmd, hqueue]
        exact ⟨_, if_pos (by decide)⟩
  obtain ⟨link', taken⟩ := hsent
  exact h.not_step (.sent found hpc open_ taken) rfl

/-- A URB that was sent has its answer. -/
theorem Stuck.not_waiting (h : Stuck w) (hrouted : Routed link) (htracked : Tracked link)
    (found : w.calls[index]? = some call) (open_ : w.pumps[pump]? = some link) {id : Nat}
    {answer : Option (Except ClientError UrbComplete)}
    (asked : link.urbs[id]? = some ⟨call.urb, answer⟩) : call.pc ≠ .waiting pump id := by
  intro hpc
  cases answer with
  | some result => exact h.not_step (.resolved found hpc open_ asked rfl) rfl
  | none =>
      have hup : link.pump.isSome = true := by
        cases hpump : link.pump with
        | none => exact absurd asked ((hrouted.down hpump).2 id call.urb)
        | some running => rfl
      obtain ⟨hqueue, htoServer, houtstanding, htoClient⟩ := h.idle open_ hup
      rcases htracked id call.urb asked with hqueued | hmoving
      · rw [ClientWorld.queuedUrbs, hqueue] at hqueued
        cases hqueued
      · rw [ClientWorld.transit, htoServer, houtstanding, htoClient] at hmoving
        cases hmoving

theorem Stuck.returned (h : Stuck w) (run : RecoveryWorld.Runs history w)
    (hsurviving : Surviving history w) (hfree : ∀ t ∈ history, ¬ CollidesOnPump t)
    (found : w.calls[index]? = some call) : ∃ result, call.pc = .returned result := by
  have hlock := h.free (exclusive_run run)
  have hexclusive := (exclusive_run run).holder index call found
  rw [hlock] at hexclusive
  obtain ⟨-, hsound⟩ := hsurviving.calls index call found
  cases hpc : call.pc with
  | cloning => exact (h.not_step (.cloned found hpc hlock) rfl).elim
  | cloned => exact (h.not_step (.sender found hpc) rfl).elim
  | sending pump =>
      rw [hpc] at hsound
      obtain ⟨link, open_, -⟩ := hsound
      exact absurd hpc (h.not_sending found open_)
  | waiting pump id =>
      rw [hpc] at hsound
      obtain ⟨link, answer, open_, asked, -⟩ := hsound
      have hrun := (pump_run run).1 pump link open_
      have hfree' : ∀ u ∈ pumpHistory pump history, ¬ Collides u :=
        fun u mem => collides_on_pump hfree mem
      exact absurd hpc
        (h.not_waiting (routed_run hrun hfree').1 (tracked_run hrun hfree') found open_ asked)
  | locking retries => exact (h.not_step (.locked found hpc hlock) rfl).elim
  | connecting | replacing | storing | greeting | attaching =>
      rw [hpc] at hexclusive
      cases hexclusive rfl
  | backingOff retries last =>
      rw [hpc] at hsound
      exact hsound.elim
  | returned result => exact ⟨result, rfl⟩

end

/-! ## The work that is left -/

/-- How many steps a call can still cause, with `retries` tries to come at the most. -/
def RecoveryPc.work : RecoveryPc → Nat
  | .returned _ => 0
  | .waiting _ _ => 1
  | .sending _ => 7
  | .cloned => 8
  | .cloning => 9
  | .backingOff retries _ => 20 * retries + 22
  | .attaching retries => 20 * retries + 30
  | .greeting retries => 20 * retries + 31
  | .storing retries _ => 20 * retries + 32
  | .replacing retries _ => 20 * retries + 33
  | .connecting retries => 20 * retries + 36
  | .locking retries => 20 * retries + 41

/-- A call that has not failed can still go through all of this. -/
def RecoveryCall.work (call : RecoveryCall) : Nat :=
  call.pc.work + if call.attempt = 0 then 200 else 0

/-- A command is written, received, completed and the completion read. -/
def ClientWorld.work (link : ClientWorld) : Nat :=
  4 * link.queue.length + 3 * link.toServer.length + 2 * link.outstanding.length +
    link.toClient.length + if link.pump.isSome then 1 else 0

def RecoveryWorld.work (w : RecoveryWorld) : Nat :=
  (w.calls.map RecoveryCall.work).sum + (w.pumps.map ClientWorld.work).sum

section

variable {w w' : RecoveryWorld} {act : RecoveryAction} {link link' : ClientWorld}

/-- A pump's own steps use up work. -/
theorem ClientWorld.work_decreases {act : ClientAction} (taken : link.step act = some link')
    (hact : act.ofPump = true) : link'.work < link.work := by
  unfold ClientWorld.work
  cases ClientWorld.step_cases taken with
  | took up head written =>
      simp only [ClientWorld.tell, head, up, List.length_append, List.length_cons, List.length_nil]
      simp only [Option.isSome_some, if_true]
      omega
  | takeFailed up head failed =>
      simp only [ClientWorld.tell, ClientWorld.shutdown, head, up, List.length_cons, List.length_nil]
      simp only [Option.isSome_some, Option.isSome_none, if_true, Bool.false_eq_true, if_false]
      omega
  | read up head =>
      simp only [ClientWorld.tell, head, up, List.length_cons]
      simp only [Option.isSome_some, if_true]
      omega
  | stop up =>
      simp only [ClientWorld.tell, ClientWorld.shutdown, up, List.length_nil]
      simp only [Option.isSome_some, Option.isSome_none, if_true, Bool.false_eq_true, if_false]
      omega
  | receive head =>
      simp only [head, List.length_cons]
      split
      · rw [List.length_append, List.length_singleton]
        omega
      · omega
  | complete found seq =>
      have hlt := (List.getElem?_eq_some_iff.mp found).1
      simp only [List.length_eraseIdx_of_lt hlt, List.length_append, List.length_singleton]
      omega
  | urbDown | urb | unlinkDown | unlink | controlDown | control | reconnect | reply => cases hact

/-- A URB adds what it takes to complete it. -/
theorem ClientWorld.work_urb {urb : UrbSubmit} (taken : link.step (.urb urb) = some link') :
    link'.work ≤ link.work + 4 := by
  unfold ClientWorld.work
  cases ClientWorld.step_cases taken with
  | urbDown => exact Nat.le_add_right _ _
  | urb =>
      simp only [List.length_append, List.length_singleton]
      omega

theorem afterFailure_work (retries : Nat) (err : ClientError) :
    (RecoveryWorld.afterFailure retries err).work ≤ 20 * retries + 22 := by
  unfold RecoveryWorld.afterFailure
  split
  · exact Nat.zero_le _
  · exact Nat.le_refl _

theorem afterUrb_work {call : RecoveryCall} {pump id : Nat} (pc : call.pc = .waiting pump id)
    (result : Except ClientError UrbComplete) :
    (RecoveryWorld.afterUrb call result).work < call.work := by
  have hcall : call.work = 1 + if call.attempt = 0 then 200 else 0 := by
    unfold RecoveryCall.work
    rw [pc]
    rfl
  rw [hcall]
  unfold RecoveryWorld.afterUrb
  split
  · simp only [RecoveryCall.work, RecoveryPc.work]
    omega
  · split
    · rename_i hretry
      simp only [RecoveryCall.work, RecoveryPc.work, hretry.2, RECONNECT_RETRIES]
      decide
    · simp only [RecoveryCall.work, RecoveryPc.work]
      omega

/-- All that is not a new call uses up work. -/
theorem RecoveryWorld.work_decreases (taken : w.step act = some w')
    (hact : ∀ urb, act ≠ .call urb) : w'.work < w.work := by
  -- a call moves, and the pumps gain less than it loses
  have hmove : ∀ {index : Nat} {call new : RecoveryCall}, w.calls[index]? = some call →
      w'.calls = w.calls.set index new →
      new.work + (w'.pumps.map ClientWorld.work).sum <
        call.work + (w.pumps.map ClientWorld.work).sum → w'.work < w.work := by
    intro index call new found hcalls hless
    have hsum := sum_map_set RecoveryCall.work found new
    unfold RecoveryWorld.work
    rw [hcalls]
    omega
  have hquiet : ∀ {index : Nat} {call : RecoveryCall} {pc : RecoveryPc},
      w.calls[index]? = some call → w'.calls = w.calls.set index { call with pc } →
      w'.pumps = w.pumps → pc.work < call.pc.work → w'.work < w.work := by
    intro index call pc found hcalls hpumps hless
    apply hmove found hcalls
    rw [hpumps]
    exact Nat.add_lt_add_right (Nat.add_lt_add_right hless _) _
  cases RecoveryWorld.step_cases taken with
  | call urb => exact absurd rfl (hact urb)
  | cloned found pc | sender found pc | locked found pc | replaced found pc | stored found pc
  | greeted found pc | attached found pc | gaveUp found pc | backedOff found pc =>
      refine hquiet found rfl rfl ?_
      rw [pc]
      simp only [RecoveryPc.work]
      omega
  | @sent index pump call link link' found pc open_ htaken =>
      refine hmove found rfl ?_
      have hsum := sum_map_set ClientWorld.work open_ link'
      have hlink := ClientWorld.work_urb htaken
      simp only [RecoveryWorld.setCall, RecoveryWorld.setPump, RecoveryCall.work, pc,
        RecoveryPc.work]
      omega
  | @resolved index pump id call link asked answer found pc open_ request answered =>
      refine hmove found rfl ?_
      exact Nat.add_lt_add_right (afterUrb_work pc _) _
  | @connected index retries call found pc =>
      refine hmove found rfl ?_
      simp only [RecoveryCall.work, pc, RecoveryPc.work, List.map_append, List.sum_append,
        List.map_cons, List.map_nil, List.sum_cons, List.sum_nil, ClientWorld.work,
        List.length_nil, Option.isSome_some, if_true]
      omega
  | @failed index retries call act err found tried =>
      refine hquiet found rfl rfl (Nat.lt_of_le_of_lt (afterFailure_work retries err) ?_)
      rcases tried with ⟨-, pc⟩ | ⟨-, pc⟩ | ⟨-, pc⟩ <;>
        · rw [pc]
          simp only [RecoveryPc.work]
          omega
  | @pump pump act link link' open_ ofPump htaken =>
      have hsum := sum_map_set ClientWorld.work open_ link'
      have hlink := ClientWorld.work_decreases htaken ofPump
      simp only [RecoveryWorld.work, RecoveryWorld.setPump]
      omega

/-- No run goes on forever. -/
theorem RecoveryWorld.run_bounded {later : RecoveryHistory}
    (run : Run RecoveryWorld.step w later w') (hnew : ∀ t ∈ later, ∀ urb, t.act ≠ .call urb) :
    later.length ≤ w.work := by
  have hlength := run.length_le RecoveryWorld.work fun t ht taken => work_decreases taken (hnew t ht)
  omega

end

end FarBus.Core
