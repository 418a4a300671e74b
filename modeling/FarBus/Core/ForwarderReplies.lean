/-
  Core/ForwarderReplies.lean --- the connection of the forwarder beside that of the local
  server.

  On the same input the two loops read the same commands.  What the local loop writes is,
  up to order, the list of its replies to them; so is what the forwarder writes, as long
  as each of its replies is the one that the local loop has for the command.
-/
import FarBus.Core.UsbipReplies

set_option autoImplicit false

namespace FarBus.Core

open FarBus.Foundation
open FarBus.Protocol

/-! ## Replies to a command -/

/-- What `serve_urbs` replies to a command. -/
def servedReply (deviceId : DeviceId) : UsbipCommand → Bytes
  | .submit cmd outPayload => retSubmitBytes cmd (completeUrb (usbipUrb deviceId cmd outPayload))
  | .unlink cmd => (retUnlink cmd 0).encode

/-- Whatever was or will be written is that. -/
structure RepliesAs (deviceId : DeviceId) (w : UsbipConn) : Prop where
  sending : ∀ task ∈ w.tasks, ∀ bytes, task.pc = .sending bytes →
    bytes = servedReply deviceId task.command
  queue : ∀ out ∈ w.queue, out.bytes = servedReply deviceId out.command
  written : ∀ out ∈ w.written, out.bytes = servedReply deviceId out.command

section

variable {loop : UrbLoop} {deviceId : DeviceId} {input : Bytes} {w w' : UsbipConn}
  {act : UsbipAction} {history : History UsbipConn UsbipAction}

theorem RepliesAs.step (h : RepliesAs deviceId w) (taken : w.step loop act = some w')
    (hcomplete : ∀ (index : Nat) result task bytes, act = .complete index result →
      w.tasks[index]? = some task → UsbipConn.returns loop task.command result = true →
      replyBytes task.command result = some bytes → bytes = servedReply deviceId task.command) :
    RepliesAs deviceId w' := by
  have hall : AllReplies (fun out => out.bytes = servedReply deviceId out.command) w :=
    ⟨h.sending, h.queue, h.written⟩
  have hafter := hall.step taken (fun _ hbefore => hbefore) (fun _ => rfl) hcomplete
  exact ⟨hafter.sending, hafter.queue, hafter.written⟩

/-- A reader that answers unlinks itself spawns submits only. -/
theorem tasks_of_inline (taken : w.step loop .read = some w') (inline : loop.inlineUnlink = true) :
    w'.tasks = w.tasks ∨
      ∃ cmd outPayload, w'.tasks = w.tasks ++ [⟨.submit cmd outPayload, .calling⟩] := by
  dsimp only [UsbipConn.step] at taken
  split at taken
  · split at taken
    · cases taken
      exact .inl rfl
    · rename_i command input received
      cases taken
      cases command with
      | submit cmd outPayload => exact .inr ⟨cmd, outPayload, rfl⟩
      | unlink cmd =>
          simp only [UsbipConn.start, inline, if_true]
          exact .inl trivial
  · cases taken

theorem submits_step (taken : w.step loop act = some w') (inline : loop.inlineUnlink = true)
    (h : ∀ task ∈ w.tasks, ∃ cmd outPayload, task.command = .submit cmd outPayload) :
    ∀ task ∈ w'.tasks, ∃ cmd outPayload, task.command = .submit cmd outPayload := by
  -- a task that is there keeps its command
  have hset : ∀ {index : Nat} {task : UsbipTask}, w.tasks[index]? = some task →
      ∀ pc, ∀ task' ∈ w.tasks.set index { task with pc },
        ∃ cmd outPayload, task'.command = .submit cmd outPayload := by
    intro index task found pc task' mem
    rcases List.mem_or_eq_of_mem_set mem with mem | rfl
    · exact h task' mem
    · exact h task (List.mem_of_getElem? found)
  cases UsbipConn.step_cases taken with
  | spawned =>
      rcases tasks_of_inline taken inline with hsame | ⟨cmd, outPayload, hspawned⟩
      · rw [hsame]
        exact h
      · rw [hspawned]
        intro task mem
        rcases List.mem_append.mp mem with mem | mem
        · exact h task mem
        · rw [List.mem_singleton.mp mem]
          exact ⟨cmd, outPayload, rfl⟩
  | completed found | sent found => exact hset found _
  | stopped | inline | replied | wrote | writeFailed => exact h

/-- The local loop replies so. -/
theorem repliesAs_run (run : UsbipConn.Runs (serveUrbs deviceId) input history w) :
    RepliesAs deviceId w := by
  refine (run.invariant (fun w => RepliesAs deviceId w ∧
    ∀ task ∈ w.tasks, ∃ cmd outPayload, task.command = .submit cmd outPayload)
    ⟨⟨by simp, by simp, by simp⟩, by simp⟩ ?_).1
  rintro pre act post ⟨h, hsubmits⟩ taken
  refine ⟨h.step taken ?_, submits_step taken rfl hsubmits⟩
  intro index result task bytes hact found returned reply
  obtain ⟨cmd, outPayload, hcommand⟩ := hsubmits task (List.mem_of_getElem? found)
  rw [hcommand] at returned reply ⊢
  cases result with
  | unlink => cases reply
  | urb result =>
      obtain rfl : result = .ok (completeUrb (usbipUrb deviceId cmd outPayload)) :=
        of_decide_eq_true returned
      cases reply
      rfl

/-- What a settled connection has written, up to order. -/
theorem written_of_settled (run : UsbipConn.Runs loop input history w)
    (hwrites : ∀ t ∈ history, t.act ≠ .writeFails) (hreplies : RepliesAs deviceId w)
    (hsettled : w.Settled) :
    (w.written.map fun out => out.bytes).Perm ((commandsOf input).map (servedReply deviceId)) := by
  have hconserved := commands_conserved run rfl hwrites
  obtain ⟨hread, hstopped⟩ := commandsOf_eq run
  have hnone : UsbipConn.unanswered { input } = [] := rfl
  rw [hnone, List.nil_append, hsettled.unanswered, List.append_nil,
    written_append_queue run hwrites, hsettled.empty, List.append_nil] at hconserved
  have hbytes : (w.written.map fun out => out.bytes) =
      (w.written.map fun out => out.command).map (servedReply deviceId) := by
    rw [List.map_map]
    exact List.map_congr_left hreplies.written
  rw [hread, hstopped hsettled.stopped, List.append_nil, hbytes]
  exact (hconserved.map _).symm

/-- Each command that `forward_urbs` has read has its task. -/
structure Spawned (deviceId : DeviceId) (input : Bytes) (w : UsbipConn) : Prop where
  commands : w.tasks.map (fun task => task.command) ++ commandsOf w.input = commandsOf input
  reader : ∀ cmd, w.reader ≠ .replying cmd
  forwarded : ∀ task ∈ w.tasks, ∀ cmd outPayload, task.command = .submit cmd outPayload →
    Forwarded (usbipUrb deviceId cmd outPayload)

/-- A task goes on with its command. -/
theorem Spawned.move (h : Spawned deviceId input w) {index : Nat} {task : UsbipTask}
    (found : w.tasks[index]? = some task) (pc : UsbipTaskPc)
    (tasks : w'.tasks = w.tasks.set index { task with pc }) (unread : w'.input = w.input)
    (reader : w'.reader = w.reader) : Spawned deviceId input w' where
  commands := by
    obtain ⟨hlt, rfl⟩ := List.getElem?_eq_some_iff.mp found
    have hlt' : index < (w.tasks.map fun task => task.command).length := by
      rwa [List.length_map]
    have hcommand : (w.tasks.map fun task => task.command)[index] = w.tasks[index].command :=
      List.getElem_map _
    rw [tasks, unread, List.map_set, ← h.commands]
    dsimp only
    rw [← hcommand, List.set_getElem_self hlt']
  reader := by
    rw [reader]
    exact h.reader
  forwarded task' mem := by
    rw [tasks] at mem
    rcases List.mem_or_eq_of_mem_set mem with mem | rfl
    · exact h.forwarded task' mem
    · exact h.forwarded task (List.mem_of_getElem? found)

theorem Spawned.step (h : Spawned deviceId input w)
    (taken : w.step (forwardUrbs deviceId) act = some w') : Spawned deviceId input w' := by
  cases UsbipConn.step_cases taken with
  | stopped => exact ⟨h.commands, fun _ h => UsbipReader.noConfusion h, h.forwarded⟩
  | inline reading received inline => cases inline
  | @spawned command unread reading received =>
      refine ⟨?_, h.reader, ?_⟩
      · rw [← h.commands, commandsOf_some received, List.map_append, List.append_assoc]
        rfl
      · intro task mem cmd outPayload hcommand
        rcases List.mem_append.mp mem with mem | mem
        · exact h.forwarded task mem cmd outPayload hcommand
        · rw [List.mem_singleton.mp mem] at hcommand
          obtain ⟨-, hsubmit⟩ := of_readCommand received
          obtain ⟨hmax, hlength⟩ := hsubmit cmd outPayload hcommand
          exact ⟨deviceId, cmd, outPayload, hlength, forwardUrb_eq_some outPayload (by omega)⟩
  | replied replying => exact absurd replying (h.reader _)
  | completed found => exact h.move found _ rfl rfl rfl
  | sent found => exact h.move found _ rfl rfl rfl
  | wrote | writeFailed => exact ⟨h.commands, h.reader, h.forwarded⟩

theorem spawned_run (run : UsbipConn.Runs (forwardUrbs deviceId) input history w) :
    Spawned deviceId input w :=
  run.invariant (Spawned deviceId input) ⟨rfl, fun _ h => UsbipReader.noConfusion h, by simp⟩
    fun _ _ _ h taken => h.step taken

end

/-! ## Sequence numbers -/

def UsbipCommand.submitSeq : UsbipCommand → Option UInt32
  | .submit cmd _ => some cmd.seqnum
  | .unlink _ => none

/-- The submits of a connection have sequence numbers of their own. -/
def DistinctSubmits (input : Bytes) : Prop :=
  ((commandsOf input).filterMap UsbipCommand.submitSeq).Nodup

instance decidableDistinctSubmits (input : Bytes) : Decidable (DistinctSubmits input) :=
  inferInstanceAs (Decidable (List.Nodup _))

theorem DistinctSubmits.task_unique {input : Bytes} {deviceId : DeviceId} {w : UsbipConn}
    (h : DistinctSubmits input) (hspawned : Spawned deviceId input w) {i j : Nat}
    {task task' : UsbipTask} (found : w.tasks[i]? = some task) (found' : w.tasks[j]? = some task')
    {seqnum : UInt32} (hseq : task.command.submitSeq = some seqnum)
    (hseq' : task'.command.submitSeq = some seqnum) : i = j := by
  unfold DistinctSubmits at h
  rw [← hspawned.commands, List.filterMap_append] at h
  have hnodup := (List.nodup_append.mp h).1
  rw [List.Nodup, List.pairwise_filterMap, List.pairwise_map, List.pairwise_iff_getElem] at hnodup
  obtain ⟨hi, rfl⟩ := List.getElem?_eq_some_iff.mp found
  obtain ⟨hj, rfl⟩ := List.getElem?_eq_some_iff.mp found'
  rcases Nat.lt_trichotomy i j with hlt | heq | hgt
  · exact absurd rfl (hnodup i j hi hj hlt seqnum hseq seqnum hseq')
  · exact heq
  · exact absurd rfl (hnodup j i hj hi hgt seqnum hseq' seqnum hseq)

/-! ## Where a loop stops -/

/-- What is left of an input where a loop stops. -/
def unreadOf (input : Bytes) : Bytes :=
  match _h : readCommand input with
  | none => input
  | some (_, rest) => unreadOf rest
termination_by input.length
decreasing_by exact (of_readCommand _h).1

theorem unreadOf_none {input : Bytes} (h : readCommand input = none) : unreadOf input = input := by
  rw [unreadOf]
  split
  · rfl
  · rename_i command rest hsome
    rw [h] at hsome
    cases hsome

theorem unreadOf_some {input rest : Bytes} {command : UsbipCommand}
    (h : readCommand input = some (command, rest)) : unreadOf input = unreadOf rest := by
  rw [unreadOf]
  split
  · rename_i hnone
    rw [h] at hnone
    cases hnone
  · rename_i command' rest' hsome
    rw [h] at hsome
    cases hsome
    rfl

section

variable {loop : UrbLoop} {deviceId : DeviceId} {input : Bytes} {w w' : UsbipConn}
  {act : UsbipAction} {history : History UsbipConn UsbipAction}

/-- Either loop stops at the same point of an input. -/
theorem input_of_stopped (run : UsbipConn.Runs loop input history w) (h : w.reader = .stopped) :
    w.input = unreadOf input := by
  have hinv : unreadOf w.input = unreadOf input ∧
      (w.reader = .stopped → readCommand w.input = none) := by
    refine run.invariant (fun w => unreadOf w.input = unreadOf input ∧
      (w.reader = .stopped → readCommand w.input = none)) ⟨rfl, UsbipReader.noConfusion⟩ ?_
    rintro pre act post ⟨hunread, hstopped⟩ taken
    cases UsbipConn.step_cases taken with
    | stopped reading ended => exact ⟨hunread, fun _ => ended⟩
    | inline reading received => exact ⟨(unreadOf_some received).symm.trans hunread,
        UsbipReader.noConfusion⟩
    | spawned reading received =>
        refine ⟨(unreadOf_some received).symm.trans hunread, fun hpost => ?_⟩
        rw [reading] at hpost
        cases hpost
    | replied => exact ⟨hunread, UsbipReader.noConfusion⟩
    | completed | sent | wrote | writeFailed => exact ⟨hunread, hstopped⟩
  rw [← hinv.1, unreadOf_none (hinv.2 h)]

/-! ## A connection comes to its end -/

def UsbipReader.work (left : Nat) : UsbipReader → Nat
  | .reading => 50 * (left + 1)
  | .replying _ => 50 * (left + 1) + 2
  | .stopped => 0

def UsbipTaskPc.work : UsbipTaskPc → Nat
  | .calling => 24
  | .sending _ => 2
  | .finished => 0

/-- What is left to do on a connection. -/
def UsbipConn.work (w : UsbipConn) : Nat :=
  w.reader.work w.input.length + (w.tasks.map fun task => task.pc.work).sum + w.queue.length

theorem UsbipConn.length_pushed (w : UsbipConn) (outgoing : Outgoing) :
    (w.pushed outgoing).length ≤ w.queue.length + 1 := by
  unfold UsbipConn.pushed
  split
  · rw [List.length_append]
    exact Nat.le_refl _
  · exact Nat.le_add_right _ _

/-- Every step uses up work, and one that spawns a task more than the others. -/
theorem UsbipConn.work_step (taken : w.step loop act = some w') (hact : act ≠ .writeFails) :
    w'.work + 1 + 25 * (w'.tasks.length - w.tasks.length) ≤ w.work := by
  unfold UsbipConn.work
  cases UsbipConn.step_cases taken with
  | stopped reading =>
      rw [reading, Nat.sub_self]
      simp only [UsbipReader.work]
      omega
  | inline reading received =>
      have hless := (of_readCommand received).1
      rw [reading, Nat.sub_self]
      simp only [UsbipReader.work]
      omega
  | spawned reading received =>
      have hless := (of_readCommand received).1
      rw [reading]
      simp only [UsbipReader.work, List.map_append, List.sum_append, List.map_cons, List.map_nil,
        List.sum_cons, List.sum_nil, UsbipTaskPc.work, List.length_append, List.length_singleton]
      omega
  | @replied cmd replying =>
      have hpushed := w.length_pushed ⟨(retUnlink cmd 0).encode, .unlink cmd⟩
      rw [replying, Nat.sub_self]
      simp only [UsbipReader.work]
      omega
  | @completed index task result bytes found pc =>
      have hsum := sum_map_set (fun task : UsbipTask => task.pc.work) found
        { task with pc := .sending bytes }
      rw [List.length_set, Nat.sub_self]
      simp only [pc, UsbipTaskPc.work] at hsum ⊢
      omega
  | @sent index task bytes found pc =>
      have hsum := sum_map_set (fun task : UsbipTask => task.pc.work) found
        { task with pc := .finished }
      have hpushed := w.length_pushed ⟨bytes, task.command⟩
      rw [List.length_set, Nat.sub_self]
      simp only [pc, UsbipTaskPc.work] at hsum ⊢
      omega
  | wrote writing head =>
      rw [head, Nat.sub_self, List.length_cons]
      simp only
      omega
  | writeFailed => exact absurd rfl hact

/-- If no call is under way, a connection can go on until all is written. -/
theorem UsbipConn.goes_on (loop : UrbLoop) (hwriting : w.writing = true) :
    w.Settled ∨ (∃ act, act ≠ .writeFails ∧ (∀ index result, act ≠ .complete index result) ∧
        (w.step loop act).isSome = true) ∨
      ∃ task ∈ w.tasks, task.pc = .calling := by
  cases hqueue : w.queue with
  | cons outgoing queue =>
      refine .inr (.inl ⟨.write, UsbipAction.noConfusion, fun _ _ => UsbipAction.noConfusion, ?_⟩)
      simp only [UsbipConn.step, hwriting, hqueue, if_true]
      rfl
  | nil =>
      have hpush : ∀ {conn : UsbipConn} (outgoing : Outgoing), conn.writing = w.writing →
          conn.queue = w.queue → (conn.push outgoing).isSome = true := by
        intro conn outgoing writing queue
        unfold UsbipConn.push
        rw [writing, queue, hwriting, hqueue]
        rfl
      by_cases hcalling : ∃ task ∈ w.tasks, task.pc = .calling
      · exact .inr (.inr hcalling)
      · by_cases hfinished : ∀ task ∈ w.tasks, task.pc = .finished
        · cases hreader : w.reader with
          | stopped => exact .inl ⟨hreader, hfinished, hqueue⟩
          | reading =>
              refine .inr (.inl ⟨.read, UsbipAction.noConfusion,
                fun _ _ => UsbipAction.noConfusion, ?_⟩)
              simp only [UsbipConn.step, hreader]
              split <;> rfl
          | replying cmd =>
              refine .inr (.inl ⟨.reply, UsbipAction.noConfusion,
                fun _ _ => UsbipAction.noConfusion, ?_⟩)
              simp only [UsbipConn.step, hreader]
              exact hpush _ rfl rfl
        · simp only [not_forall] at hfinished
          obtain ⟨task, mem, hpc⟩ := hfinished
          obtain ⟨index, hindex⟩ := List.getElem?_of_mem mem
          refine .inr (.inl ⟨.send index, UsbipAction.noConfusion,
            fun _ _ => UsbipAction.noConfusion, ?_⟩)
          cases hcase : task.pc with
          | calling => exact absurd ⟨task, mem, hcase⟩ hcalling
          | finished => exact absurd hcase hpc
          | sending bytes =>
              simp only [UsbipConn.step, hindex, Option.bind_eq_bind, Option.bind_some, hcase]
              exact hpush _ rfl rfl

/-- The local loop can always answer all there is. -/
theorem serveUrbs_settles (deviceId : DeviceId) (input : Bytes) :
    ∃ history w, UsbipConn.Runs (serveUrbs deviceId) input history w ∧
      (∀ t ∈ history, t.act ≠ .writeFails) ∧ w.Settled := by
  have hreaches := @Run.reaches _ _ (UsbipConn.step (serveUrbs deviceId)) { input } UsbipConn.work
    (fun w => w.writing = true ∧
      ∀ task ∈ w.tasks, ∃ cmd outPayload, task.command = .submit cmd outPayload)
    UsbipConn.Settled (fun t => t.act ≠ .writeFails) ?_ ⟨rfl, by simp⟩
  · obtain ⟨history, w, run, hwrites, -, hsettled⟩ := hreaches
    exact ⟨history, w, run, hwrites, hsettled⟩
  · rintro w ⟨hwriting, hsubmits⟩ hnot
    -- a step that is enabled uses up work
    have hgo : ∀ act, act ≠ UsbipAction.writeFails →
        (w.step (serveUrbs deviceId) act).isSome = true → ∃ act post,
        w.step (serveUrbs deviceId) act = some post ∧ act ≠ .writeFails ∧
        (post.writing = true ∧
          ∀ task ∈ post.tasks, ∃ cmd outPayload, task.command = .submit cmd outPayload) ∧
        post.work < w.work := by
      intro act hact henabled
      obtain ⟨post, taken⟩ := Option.isSome_iff_exists.mp henabled
      have hwork := UsbipConn.work_step taken hact
      exact ⟨act, post, taken, hact, ⟨writing_step taken hact hwriting,
        submits_step taken rfl hsubmits⟩, by omega⟩
    rcases UsbipConn.goes_on (serveUrbs deviceId) hwriting with
      hsettled | ⟨act, hact, -, henabled⟩ | ⟨task, mem, hpc⟩
    · exact absurd hsettled hnot
    · exact hgo act hact henabled
    · obtain ⟨index, hindex⟩ := List.getElem?_of_mem mem
      obtain ⟨cmd, outPayload, hcommand⟩ := hsubmits task mem
      refine hgo (.complete index (.urb (.ok (completeUrb (usbipUrb deviceId cmd outPayload)))))
        UsbipAction.noConfusion ?_
      simp [UsbipConn.step, hindex, hpc, hcommand, UsbipConn.returns, serveUrbs, replyBytes]

end

end FarBus.Core
