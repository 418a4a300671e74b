/-
  Core/ForwarderRuns.lean --- what the forwarder writes while the link stays up.

  Every reply it writes is the one that `serve_urbs` writes for the same command: the
  call of a submit returns what the emulator computes for its URB, and that of an unlink
  is answered by 0, or fails, which the forwarder takes for 0.
-/
import FarBus.Core.Forwarder
import FarBus.Core.ForwarderReplies
import FarBus.Core.LinkedUrbs

set_option autoImplicit false

namespace FarBus.Core

open FarBus.Foundation
open FarBus.Protocol

/-! ## The calls of the tasks -/

/-- The call has been sent. -/
def ForwardPc.sent : ForwardPc → Bool
  | .locking | .sending => false
  | .waiting _ | .recovering | .returned => true

/-- A call waits for what its task is about, and returns to it. -/
def ForwardPc.Fits (base baseUnlinks : Nat) (deviceId : DeviceId) (client : ClientWorld)
    (task : UsbipTask) : ForwardPc → Prop
  | .locking | .sending => task.pc = .calling
  | .waiting id => task.pc = .calling ∧
      match task.command with
      | .submit cmd outPayload => base ≤ id ∧ client.Asked id (usbipUrb deviceId cmd outPayload)
      | .unlink _ => baseUnlinks ≤ id ∧ id < client.unlinks.length
  | .recovering => False
  | .returned => task.pc ≠ .calling

/-- An unlink that has the client locked. -/
def ForwardPc.holds : ForwardPc → Bool
  | .sending | .waiting _ => true
  | .locking | .recovering | .returned => false

/-- The calls of a connection: one for each of its tasks, and all the calls of the
client since `base` are theirs. -/
structure ForwardWorld.Calling (base baseUnlinks : Nat) (deviceId : DeviceId) (w : ForwardWorld) :
    Prop where
  length : w.calls.length = w.conn.tasks.length
  fits : ∀ (index : Nat) task call, w.conn.tasks[index]? = some task →
    w.calls[index]? = some call → call.Fits base baseUnlinks deviceId w.link.client task
  asked : ∀ id urb, base ≤ id → w.link.client.Asked id urb →
    ∃ (index : Nat) (task : UsbipTask) (call : ForwardPc) (cmd : UsbipCmdSubmit)
      (outPayload : Bytes), w.conn.tasks[index]? = some task ∧ w.calls[index]? = some call ∧
      call.sent = true ∧ task.command = .submit cmd outPayload ∧
      urb = usbipUrb deviceId cmd outPayload
  holder : ∀ index, w.lock = some index →
    ∃ (task : UsbipTask) (cmd : UsbipCmdUnlink) (call : ForwardPc),
      w.conn.tasks[index]? = some task ∧ w.calls[index]? = some call ∧
      task.command = .unlink cmd ∧ call.holds = true

section

variable {platform : Platform} {deviceId : DeviceId} {base baseUnlinks : Nat}
  {w w' : ForwardWorld} {client client' : ClientWorld}

theorem ForwardPc.Fits.mono {task : UsbipTask} {call : ForwardPc}
    (h : call.Fits base baseUnlinks deviceId client task)
    (asked : ∀ id urb, client.Asked id urb → client'.Asked id urb)
    (unlinks : client.unlinks.length ≤ client'.unlinks.length) :
    call.Fits base baseUnlinks deviceId client' task := by
  cases call with
  | locking | sending | recovering | returned => exact h
  | waiting id =>
      refine ⟨h.1, ?_⟩
      have hwaits := h.2
      split at hwaits
      · exact ⟨hwaits.1, asked id _ hwaits.2⟩
      · exact ⟨hwaits.1, Nat.lt_of_lt_of_le hwaits.2 unlinks⟩

/-- One call goes on, and its task with it. -/
theorem ForwardWorld.Calling.move (h : w.Calling base baseUnlinks deviceId) {index : Nat}
    {task task' : UsbipTask} {call call' : ForwardPc} (found : w.conn.tasks[index]? = some task)
    (pc : w.calls[index]? = some call) (tasks : w'.conn.tasks = w.conn.tasks.set index task')
    (command : task'.command = task.command) (calls : w'.calls = w.calls.set index call')
    (fits : call'.Fits base baseUnlinks deviceId w'.link.client task')
    (kept : ∀ id urb, w.link.client.Asked id urb → w'.link.client.Asked id urb)
    (unlinks : w.link.client.unlinks.length ≤ w'.link.client.unlinks.length)
    (sent : call.sent = true → call'.sent = true)
    (asked : ∀ id urb, w'.link.client.Asked id urb → w.link.client.Asked id urb ∨
      call'.sent = true ∧ ∃ cmd outPayload, task.command = .submit cmd outPayload ∧
        urb = usbipUrb deviceId cmd outPayload)
    (holder : ∀ index', w'.lock = some index' →
      index' = index ∧ (∃ cmd, task.command = .unlink cmd) ∧ call'.holds = true ∨
      index' ≠ index ∧ w.lock = some index') :
    w'.Calling base baseUnlinks deviceId := by
  have htask : w'.conn.tasks[index]? = some task' := by
    rw [tasks]
    exact lookup_set_self found _
  have hcall : w'.calls[index]? = some call' := by
    rw [calls]
    exact lookup_set_self pc _
  have htasks : ∀ {other : Nat}, other ≠ index → w'.conn.tasks[other]? = w.conn.tasks[other]? := by
    intro other hother
    rw [tasks, List.getElem?_set_ne (Ne.symm hother)]
  have hcalls : ∀ {other : Nat}, other ≠ index → w'.calls[other]? = w.calls[other]? := by
    intro other hother
    rw [calls, List.getElem?_set_ne (Ne.symm hother)]
  refine ⟨?_, ?_, ?_, ?_⟩
  · rw [tasks, calls, List.length_set, List.length_set]
    exact h.length
  · intro other task₁ call₁ found₁ pc₁
    by_cases hother : other = index
    · subst hother
      rw [htask] at found₁
      rw [hcall] at pc₁
      cases found₁
      cases pc₁
      exact fits
    · rw [htasks hother] at found₁
      rw [hcalls hother] at pc₁
      exact (h.fits other task₁ call₁ found₁ pc₁).mono kept unlinks
  · intro id urb hbase hasked
    rcases asked id urb hasked with hbefore | ⟨hsent, cmd, outPayload, hcommand, hurb⟩
    · obtain ⟨other, task₁, call₁, cmd, outPayload, found₁, pc₁, hsent₁, hcommand, hurb⟩ :=
        h.asked id urb hbase hbefore
      by_cases hother : other = index
      · subst hother
        rw [found] at found₁
        rw [pc] at pc₁
        cases found₁
        cases pc₁
        exact ⟨other, task', call', cmd, outPayload, htask, hcall, sent hsent₁,
          command.trans hcommand, hurb⟩
      · exact ⟨other, task₁, call₁, cmd, outPayload, (htasks hother).trans found₁,
          (hcalls hother).trans pc₁, hsent₁, hcommand, hurb⟩
    · exact ⟨index, task', call', cmd, outPayload, htask, hcall, hsent, command.trans hcommand, hurb⟩
  · intro other hlock
    rcases holder other hlock with ⟨rfl, ⟨cmd, hcommand⟩, hholds⟩ | ⟨hother, hbefore⟩
    · exact ⟨task', cmd, call', htask, hcall, command.trans hcommand, hholds⟩
    · obtain ⟨task₁, cmd, call₁, found₁, pc₁, hcommand, hholds⟩ := h.holder other hbefore
      exact ⟨task₁, cmd, call₁, (htasks hother).trans found₁, (hcalls hother).trans pc₁, hcommand,
        hholds⟩

/-- The tasks and their calls stay as they are. -/
theorem ForwardWorld.Calling.frame (h : w.Calling base baseUnlinks deviceId)
    (tasks : w'.conn.tasks = w.conn.tasks) (calls : w'.calls = w.calls) (lock : w'.lock = w.lock)
    (kept : ∀ id urb, w.link.client.Asked id urb → w'.link.client.Asked id urb)
    (asked : ∀ id urb, w'.link.client.Asked id urb → w.link.client.Asked id urb)
    (unlinks : w.link.client.unlinks.length ≤ w'.link.client.unlinks.length) :
    w'.Calling base baseUnlinks deviceId := by
  refine ⟨?_, ?_, ?_, ?_⟩
  · rw [tasks, calls]
    exact h.length
  · rw [tasks, calls]
    exact fun index task call found pc => (h.fits index task call found pc).mono kept unlinks
  · rw [tasks, calls]
    exact fun id urb hbase hasked => h.asked id urb hbase (asked id urb hasked)
  · rw [tasks, calls, lock]
    exact h.holder

/-- A task is spawned, and is about to lock the client. -/
theorem ForwardWorld.Calling.spawn (h : w.Calling base baseUnlinks deviceId)
    {command : UsbipCommand} (tasks : w'.conn.tasks = w.conn.tasks ++ [⟨command, .calling⟩])
    (calls : w'.calls = w.calls ++ [.locking]) (lock : w'.lock = w.lock)
    (link : w'.link = w.link) : w'.Calling base baseUnlinks deviceId := by
  have htasks : ∀ {index : Nat} {task : UsbipTask}, w.conn.tasks[index]? = some task →
      w'.conn.tasks[index]? = some task := by
    intro index task found
    rw [tasks, List.getElem?_append_left (List.getElem?_eq_some_iff.mp found).1, found]
  have hcalls : ∀ {index : Nat} {call : ForwardPc}, w.calls[index]? = some call →
      w'.calls[index]? = some call := by
    intro index call pc
    rw [calls, List.getElem?_append_left (List.getElem?_eq_some_iff.mp pc).1, pc]
  refine ⟨?_, ?_, ?_, ?_⟩
  · rw [tasks, calls, List.length_append, List.length_append, h.length]
    rfl
  · intro index task call found pc
    rw [tasks, List.getElem?_append] at found
    rw [calls, List.getElem?_append, h.length] at pc
    rw [link]
    split at found
    · rename_i hlt
      rw [if_pos hlt] at pc
      exact h.fits index task call found pc
    · rename_i hge
      rw [if_neg hge, List.getElem?_singleton] at pc
      rw [List.getElem?_singleton] at found
      split at found
      · rename_i hzero
        rw [if_pos hzero] at pc
        cases found
        cases pc
        exact rfl
      · cases found
  · intro id urb hbase hasked
    rw [link] at hasked
    obtain ⟨index, task, call, cmd, outPayload, found, pc, hsent⟩ := h.asked id urb hbase hasked
    exact ⟨index, task, call, cmd, outPayload, htasks found, hcalls pc, hsent⟩
  · intro index hlock
    rw [lock] at hlock
    obtain ⟨task, cmd, call, found, pc, hholds⟩ := h.holder index hlock
    exact ⟨task, cmd, call, htasks found, hcalls pc, hholds⟩

/-- A task has its reply already when it sends it. -/
theorem ForwardWorld.Calling.returned_of_pc (h : w.Calling base baseUnlinks deviceId) {index : Nat}
    {task : UsbipTask} (found : w.conn.tasks[index]? = some task) (pc : task.pc ≠ .calling) :
    w.calls[index]? = some .returned := by
  have hlt : index < w.calls.length := by
    rw [h.length]
    exact (List.getElem?_eq_some_iff.mp found).1
  obtain ⟨call, hcall⟩ : ∃ call, w.calls[index]? = some call := ⟨_, List.getElem?_eq_getElem hlt⟩
  have hfits := h.fits index task call found hcall
  cases call with
  | locking | sending => exact absurd hfits pc
  | waiting id => exact absurd hfits.1 pc
  | recovering => exact hfits.elim
  | returned => exact hcall

/-- A step of the loop, of a task that sends its reply, or of the writer. -/
theorem ForwardWorld.Calling.conn (h : w.Calling base baseUnlinks deviceId) {act : UsbipAction}
    {conn : UsbipConn} (other : ∀ index result, act ≠ .complete index result)
    (taken : w.conn.step (forwardUrbs deviceId) act = some conn) :
    ForwardWorld.Calling base baseUnlinks deviceId
      { w with
        conn
        calls := w.calls ++ (conn.tasks.drop w.conn.tasks.length).map fun _ => .locking } := by
  -- where no task is spawned
  have hnone : ∀ {tasks : List UsbipTask}, tasks.length = w.conn.tasks.length →
      w.calls ++ (tasks.drop w.conn.tasks.length).map (fun _ => ForwardPc.locking) = w.calls := by
    intro tasks hlength
    rw [← hlength, List.drop_length]
    exact List.append_nil _
  cases UsbipConn.step_cases taken with
  | inline reading received inline => cases inline
  | stopped | replied | wrote | writeFailed =>
      exact h.frame rfl (hnone rfl) rfl (fun _ _ hasked => hasked) (fun _ _ hasked => hasked)
        (Nat.le_refl _)
  | spawned =>
      refine h.spawn rfl ?_ rfl rfl
      rw [List.drop_left]
      rfl
  | completed => exact absurd rfl (other _ _)
  | @sent index task bytes found pc =>
      have hcall := h.returned_of_pc found (by rw [pc]; exact UsbipTaskPc.noConfusion)
      refine h.move found hcall rfl rfl ?_ ?_ (fun _ _ hasked => hasked) (Nat.le_refl _) id ?_ ?_
      · dsimp only
        rw [hnone List.length_set]
        obtain ⟨hlt, heq⟩ := List.getElem?_eq_some_iff.mp hcall
        rw [← heq, List.set_getElem_self]
      · exact UsbipTaskPc.noConfusion
      · exact fun _ _ hasked => .inl hasked
      · intro index' hlock
        refine .inr ⟨?_, hlock⟩
        rintro rfl
        obtain ⟨task', cmd, call, -, pc', -, hholds⟩ := h.holder index' hlock
        rw [hcall] at pc'
        cases pc'
        cases hholds

end

/-! ## What a call returns -/

theorem completeUrb_status (submit : UrbSubmit) :
    (completeUrb submit).status = 0 ∨ (completeUrb submit).status = -32 := by
  unfold completeUrb
  split
  · unfold controlComplete
    split <;> exact .inl rfl
  · unfold interruptComplete
    split <;> exact .inl rfl
  · unfold bulkComplete
    split <;> exact .inl rfl
  · exact .inr rfl

theorem urbWithLength_completeUrb (submit : UrbSubmit) :
    urbWithLength (.ok (completeUrb submit)) = .ok (completeUrb submit) := by
  have hne : (completeUrb submit).status ≠ LEASE_DENIED := by
    rcases completeUrb_status submit with h | h <;> rw [h] <;> decide
  exact if_neg hne

section

variable {deviceId : DeviceId} {base baseUnlinks id : Nat} {client : ClientWorld}
  {task : UsbipTask} {result : UsbipResult}

/-- The call of a task does not fail, and brings about the reply of the local loop. -/
theorem callResult_served (hhonest : client.Honest base deviceId)
    (hunlinks : client.UnlinksDone baseUnlinks)
    (hfits : (ForwardPc.waiting id).Fits base baseUnlinks deviceId client task)
    (told : client.callResult task.command id = some result) :
    result.recovers = false ∧ ∀ bytes, replyBytes task.command result = some bytes →
      bytes = servedReply deviceId task.command := by
  have hwaits := hfits.2
  cases hcommand : task.command with
  | submit cmd outPayload =>
      rw [hcommand] at told hwaits
      obtain ⟨hbase, answer, hcall⟩ := hwaits
      obtain ⟨asked, hasked, htold⟩ := Option.bind_eq_some_iff.mp told
      obtain ⟨answered, hanswered, hresult⟩ := Option.bind_eq_some_iff.mp htold
      rw [hcall, Option.some.injEq] at hasked
      subst hasked
      dsimp only at hanswered
      subst hanswered
      obtain rfl := hhonest.answered id _ answered hbase hcall
      rw [urbWithLength_completeUrb] at hresult
      cases hresult
      refine ⟨rfl, ?_⟩
      intro bytes hbytes
      cases hbytes
      rfl
  | unlink cmd =>
      rw [hcommand] at told hwaits
      obtain ⟨asked, hasked, htold⟩ := Option.bind_eq_some_iff.mp told
      obtain ⟨answered, hanswered, hresult⟩ := Option.bind_eq_some_iff.mp htold
      cases hresult
      refine ⟨rfl, ?_⟩
      intro bytes hbytes
      cases hbytes
      have hstatus : statusOrZero (unlinkResult answered) = 0 := by
        cases answered with
        | error err => rfl
        | ok status =>
            obtain ⟨request, answer⟩ := asked
            dsimp only at hanswered
            subst hanswered
            obtain rfl := hunlinks id request status hwaits.1 hasked
            rfl
      rw [hstatus]
      rfl

end

/-! ## Runs on a link that stays up -/

/-- What a server may come to. -/
def World.Reachable (platform : Platform) (w : World) : Prop :=
  ∃ start history, World.Starting platform start ∧ World.Runs platform start history w

section

variable {platform : Platform} {w w' : LinkedWorld} {act : LinkedAction}

theorem World.Reachable.linked_step (h : w.server.Reachable platform)
    (taken : w.step platform act = some w') : w'.server.Reachable platform := by
  rcases serverTransition_cases taken with ⟨-, hsame⟩ | ⟨act', -, hstep⟩
  · rw [hsame]
    exact h
  · obtain ⟨start, history, hstart, run⟩ := h
    exact ⟨start, _, hstart, .snoc run hstep⟩

/-- The calls stay. -/
theorem LinkedWorld.calls_kept (taken : w.step platform act = some w') :
    (∀ id urb, w.client.Asked id urb → w'.client.Asked id urb) ∧
      w.client.unlinks.length ≤ w'.client.unlinks.length := by
  cases LinkedWorld.step_cases taken with
  | client atClient htaken =>
      exact ⟨fun id urb hasked => asked_step htaken hasked, (calls_length_step htaken).2⟩
  | reconnect | delivered | garbled | write | server =>
      exact ⟨fun _ _ hasked => hasked, Nat.le_refl _⟩

/-- There is a new one only where one is made. -/
theorem LinkedWorld.asked_of_step (taken : w.step platform act = some w') {id : Nat}
    {urb : UrbSubmit} (h : w'.client.Asked id urb) :
    w.client.Asked id urb ∨ act = .client (.urb urb) := by
  cases LinkedWorld.step_cases taken with
  | client atClient htaken =>
      exact (FarBus.Core.asked_of_step htaken h).imp_right fun hact => by rw [hact]
  | reconnect | delivered | garbled | write | server => exact .inl h

theorem LinkedAction.callsFor_of_behind {base : Nat} {deviceId : DeviceId}
    (h : act.behind = true) : act.CallsFor w base deviceId := by
  cases act with
  | client act =>
      cases act with
      | urb | unlink | control => cases h
      | take | read | stop | reconnect | receive | complete | reply => trivial
  | reconnect | deliver | write | server => trivial

end

/-- A connection in a run in which nothing has failed. -/
structure Forwarding (platform : Platform) (deviceId : DeviceId) (owner : PeerFingerprint)
    (token : PresenceToken) (input : Bytes) (base baseUnlinks : Nat) (w : ForwardWorld) : Prop where
  conn : ∃ history, UsbipConn.Runs (forwardUrbs deviceId) input history w.conn ∧
    ∀ t ∈ history, t.act ≠ .writeFails
  replies : RepliesAs deviceId w.conn
  calling : w.Calling base baseUnlinks deviceId
  reachable : w.link.server.Reachable platform
  standing : Standing deviceId owner w.link
  honest : w.link.Honest base baseUnlinks deviceId owner token

section

variable {platform : Platform} {deviceId : DeviceId} {owner : PeerFingerprint}
  {token : PresenceToken} {input : Bytes} {base baseUnlinks : Nat} {w w' : ForwardWorld}
  {act : ForwardAction}

theorem Forwarding.spawned
    (h : Forwarding platform deviceId owner token input base baseUnlinks w) :
    Spawned deviceId input w.conn := by
  obtain ⟨history, run, -⟩ := h.conn
  exact spawned_run run

/-- The link goes on. -/
theorem Forwarding.honest_step
    (h : Forwarding platform deviceId owner token input base baseUnlinks w)
    {act : LinkedAction} {link : LinkedWorld} (hstanding : Standing deviceId owner link)
    (hcalls : act.CallsFor w.link base deviceId)
    (taken : w.link.step platform act = some link) :
    link.Honest base baseUnlinks deviceId owner token := by
  obtain ⟨start, history, hstart, run⟩ := h.reachable
  exact h.honest.step (inventory_wellFormed hstart run) (World.tokened_run hstart run) h.standing
    hstanding hcalls taken

/-- A call is sent: for a URB of its own, or for an unlink. -/
theorem Forwarding.callsFor
    (h : Forwarding platform deviceId owner token input base baseUnlinks w)
    (hdistinct : DistinctSubmits input) {index : Nat} {task : UsbipTask}
    (found : w.conn.tasks[index]? = some task) (pc : w.calls[index]? = some .sending) :
    (LinkedAction.client (task.command.request deviceId)).CallsFor w.link base deviceId := by
  cases hcommand : task.command with
  | unlink cmd => exact rfl
  | submit cmd outPayload =>
      have hforwarded := h.spawned.forwarded task (List.mem_of_getElem? found) cmd outPayload hcommand
      refine ⟨⟨rfl, hforwarded.encodable⟩, ?_⟩
      intro id urb' hbase hasked hseq
      obtain ⟨other, task', call, cmd', outPayload', found', pc', hsent, hcommand', rfl⟩ :=
        h.calling.asked id urb' hbase hasked
      have hsame : other = index := by
        apply hdistinct.task_unique h.spawned found' found
        · rw [hcommand']
          exact congrArg some hseq
        · rw [hcommand]
          rfl
      subst hsame
      rw [pc] at pc'
      cases pc'
      cases hsent

/-- What the send of a call does to the client. -/
theorem sent_fits {link : LinkedWorld} (hstarted : base ≤ w.link.client.urbs.length ∧
    baseUnlinks ≤ w.link.client.unlinks.length) (hup : w.link.client.pump.isSome = true)
    {task : UsbipTask} (hpc : task.pc = .calling)
    (taken : w.link.step platform (.client (task.command.request deviceId)) = some link) :
    (ForwardPc.waiting (w.link.client.nextCall task.command)).Fits base baseUnlinks deviceId
      link.client task := by
  refine ⟨hpc, ?_⟩
  cases LinkedWorld.step_cases taken with
  | client atClient htaken =>
      cases hcommand : task.command with
      | submit cmd outPayload =>
          rw [hcommand] at htaken
          cases ClientWorld.step_cases htaken with
          | urbDown urb down =>
              rw [down] at hup
              cases hup
          | urb urb up => exact ⟨hstarted.1, none, List.getElem?_concat_length⟩
      | unlink cmd =>
          rw [hcommand] at htaken
          cases ClientWorld.step_cases htaken with
          | unlinkDown request down =>
              rw [down] at hup
              cases hup
          | unlink request up =>
              refine ⟨hstarted.2, ?_⟩
              show w.link.client.unlinks.length < (w.link.client.unlinks ++ [_]).length
              rw [List.length_append]
              exact Nat.lt_succ_self _

theorem Forwarding.step
    (h : Forwarding platform deviceId owner token input base baseUnlinks w)
    (hdistinct : DistinctSubmits input) (hstanding : Standing deviceId owner w'.link)
    (hact : act ≠ .conn .writeFails) (taken : w.step platform deviceId act = some w') :
    Forwarding platform deviceId owner token input base baseUnlinks w' := by
  cases ForwardWorld.step_cases taken with
  | @conn act conn other htaken =>
      refine ⟨?_, ?_, h.calling.conn other htaken, h.reachable, h.standing, h.honest⟩
      · obtain ⟨history, run, hwrites⟩ := h.conn
        refine ⟨_, .snoc run htaken, ?_⟩
        intro t mem
        rcases List.mem_cons.mp mem with rfl | mem
        · exact fun hfails => hact (congrArg ForwardAction.conn hfails)
        · exact hwrites t mem
      · refine h.replies.step htaken ?_
        intro index result task bytes hcomplete
        exact absurd hcomplete (other index result)
  | @locked index task found pc free =>
      have hfits := h.calling.fits index task _ found pc
      refine ⟨h.conn, h.replies, ?_, h.reachable, h.standing, h.honest⟩
      refine h.calling.move found pc ?_ rfl (rfl : _ = w.calls.set index .sending) hfits
        (fun _ _ hasked => hasked) (Nat.le_refl _) (fun hsent => hsent)
        (fun _ _ hasked => .inl hasked) ?_
      · obtain ⟨hlt, rfl⟩ := List.getElem?_eq_some_iff.mp found
        exact (List.set_getElem_self hlt).symm
      · intro index' hlock
        dsimp only at hlock
        split at hlock
        · cases hlock
        · rename_i cmd hcommand
          cases hlock
          exact .inl ⟨rfl, ⟨cmd, hcommand⟩, rfl⟩
  | @sent index task link found pc htaken =>
      have hfits := h.calling.fits index task _ found pc
      have hcalls := h.callsFor hdistinct found pc
      obtain ⟨hkept, hlength⟩ := LinkedWorld.calls_kept htaken
      refine ⟨h.conn, h.replies, ?_, h.reachable.linked_step htaken, hstanding,
        h.honest_step hstanding hcalls htaken⟩
      refine h.calling.move found pc ?_ rfl rfl
        (sent_fits h.honest.started h.standing.up hfits htaken) hkept hlength (fun _ => rfl) ?_ ?_
      · obtain ⟨hlt, rfl⟩ := List.getElem?_eq_some_iff.mp found
        exact (List.set_getElem_self hlt).symm
      · intro id urb hasked
        refine (LinkedWorld.asked_of_step htaken hasked).imp_right fun hurb => ⟨rfl, ?_⟩
        cases hcommand : task.command with
        | unlink cmd =>
            rw [hcommand] at hurb
            cases hurb
        | submit cmd outPayload =>
            rw [hcommand] at hurb
            cases hurb
            exact ⟨cmd, outPayload, rfl, rfl⟩
      · intro index' hlock
        by_cases hsame : index' = index
        · subst hsame
          obtain ⟨task', cmd, call, found', -, hcommand, -⟩ := h.calling.holder index' hlock
          rw [found] at found'
          cases found'
          exact .inl ⟨rfl, ⟨cmd, hcommand⟩, rfl⟩
        · exact .inr ⟨hsame, hlock⟩
  | @failed index id task result found pc told recovers =>
      have hfits := h.calling.fits index task _ found pc
      have hserved := callResult_served h.honest.client h.honest.unlinks hfits told
      rw [hserved.1] at recovers
      cases recovers
  | @returned index id task result conn found pc told ended htaken =>
      have hfits := h.calling.fits index task _ found pc
      have hserved := callResult_served h.honest.client h.honest.unlinks hfits told
      refine ⟨?_, ?_, ?_, h.reachable, h.standing, h.honest⟩
      · obtain ⟨history, run, hwrites⟩ := h.conn
        refine ⟨_, .snoc run htaken, ?_⟩
        intro t mem
        rcases List.mem_cons.mp mem with rfl | mem
        · exact UsbipAction.noConfusion
        · exact hwrites t mem
      · refine h.replies.step htaken ?_
        intro index' result' task' bytes hcomplete found' returned reply
        cases hcomplete
        rw [found] at found'
        cases found'
        exact hserved.2 bytes reply
      · cases UsbipConn.step_cases htaken with
        | @completed index task' result bytes found' calling returned reply =>
            rw [found] at found'
            cases found'
            refine h.calling.move found pc rfl rfl rfl UsbipTaskPc.noConfusion
              (fun _ _ hasked => hasked) (Nat.le_refl _) (fun _ => rfl)
              (fun _ _ hasked => .inl hasked) ?_
            intro index' hlock
            dsimp only at hlock
            split at hlock
            · cases hlock
            · rename_i hother
              refine .inr ⟨?_, hlock⟩
              rintro rfl
              exact hother hlock
  | @link act link behind htaken =>
      obtain ⟨hkept, hlength⟩ := LinkedWorld.calls_kept htaken
      refine ⟨h.conn, h.replies, ?_, h.reachable.linked_step htaken, hstanding,
        h.honest_step hstanding (LinkedAction.callsFor_of_behind behind) htaken⟩
      refine h.calling.frame rfl rfl rfl hkept ?_ hlength
      intro id urb hasked
      rcases LinkedWorld.asked_of_step htaken hasked with hbefore | hurb
      · exact hbefore
      · rw [hurb] at behind
        cases behind

end

end FarBus.Core
