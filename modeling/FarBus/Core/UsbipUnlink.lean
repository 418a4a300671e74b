/-
  Core/UsbipUnlink.lean --- unlink replies and the submits they give back.

  A USB/IP client gives a URB back when its unlink is answered, and does not know the
  URB any more when a reply to the submit comes after that.  Neither loop stops the task
  of a submit it unlinks, and neither waits for it: the two replies are put on the
  queue in whatever order they come.
-/
import FarBus.Core.UsbipReplies

set_option autoImplicit false

namespace FarBus.Core

open FarBus.Foundation
open FarBus.Protocol

def UsbipCommand.submits (seqnum : UInt32) : UsbipCommand → Bool
  | .submit cmd _ => cmd.seqnum = seqnum
  | .unlink _ => false

def UsbipCommand.unlinks (seqnum : UInt32) : UsbipCommand → Bool
  | .submit _ _ => false
  | .unlink cmd => cmd.unlinkSeqnum = seqnum

/-- `first` unlinks the submit `second`. -/
def Contradicts (first second : UsbipCommand) : Prop :=
  ∃ seqnum, first.unlinks seqnum = true ∧ second.submits seqnum = true

/-- No submit is answered after an unlink of it was. -/
def Consistent (written : List Outgoing) : Prop :=
  (written.map fun out => out.command).Pairwise fun first second => ¬ Contradicts first second

theorem contradicts_iff (first second : UsbipCommand) :
    Contradicts first second ↔
      match first with
      | .submit _ _ => False
      | .unlink cmd => second.submits cmd.unlinkSeqnum = true := by
  cases first with
  | submit cmd outPayload => simp [Contradicts, UsbipCommand.unlinks]
  | unlink cmd => simp [Contradicts, UsbipCommand.unlinks]

instance decidableContradicts (first second : UsbipCommand) : Decidable (Contradicts first second) :=
  have : Decidable (match first with
      | .submit _ _ => False
      | .unlink cmd => second.submits cmd.unlinkSeqnum = true) :=
    match first with
    | .submit _ _ => .isFalse id
    | .unlink cmd => decEq (second.submits cmd.unlinkSeqnum) true
  decidable_of_iff' _ (contradicts_iff first second)

instance decidableConsistent (written : List Outgoing) : Decidable (Consistent written) :=
  inferInstanceAs (Decidable (List.Pairwise _ _))

/-- When the reply to an unlink joins the queue, the submit it is for is not under way,
and it is not received later. -/
def Orderly (history : History UsbipConn UsbipAction) : Prop :=
  ∀ later t earlier, history = later ++ t :: earlier → ∀ seqnum,
    (∃ out ∈ queuedReplies t, out.command.unlinks seqnum = true) →
    (∀ command ∈ t.pre.unanswered, command.submits seqnum = false) ∧
      ∀ u ∈ later, ∀ command ∈ receivedCommand u, command.submits seqnum = false

theorem Orderly.before {t : Transition UsbipConn UsbipAction}
    {history : History UsbipConn UsbipAction} (h : Orderly (t :: history)) : Orderly history := by
  intro later u earlier hcut seqnum hunlinks
  obtain ⟨hpending, hlater⟩ :=
    h (t :: later) u earlier (by rw [hcut, List.cons_append]) seqnum hunlinks
  exact ⟨hpending, fun v hv => hlater v (List.mem_cons_of_mem _ hv)⟩

theorem UsbipCommand.not_submits_of_unlinks {command : UsbipCommand} {seqnum : UInt32}
    (h : command.unlinks seqnum = true) (seqnum' : UInt32) : command.submits seqnum' = false := by
  cases command with
  | submit cmd outPayload => cases h
  | unlink cmd => rfl

section

variable {loop : UrbLoop} {input : Bytes} {start w w' : UsbipConn} {act : UsbipAction}
  {history : History UsbipConn UsbipAction} {seqnum : UInt32}

theorem drop_pushed (w : UsbipConn) (outgoing : Outgoing) :
    (w.pushed outgoing).drop w.queue.length = [] ∨
      (w.pushed outgoing).drop w.queue.length = [outgoing] := by
  unfold UsbipConn.pushed
  split
  · exact .inr List.drop_left
  · exact .inl (List.drop_length)

theorem UsbipConn.mem_unanswered_of_task {task : UsbipTask} (mem : task ∈ w.tasks)
    (pc : task.pc ≠ .finished) : task.command ∈ w.unanswered := by
  apply List.mem_append_right
  rw [List.mem_flatMap]
  refine ⟨task, mem, ?_⟩
  rw [UsbipTask.unanswered, if_neg pc]
  exact List.mem_singleton.mpr rfl

/-- A step queues one reply at most, to a command that was under way, and then it reads
nothing. -/
theorem queued_step (taken : w.step loop act = some w') :
    queuedReplies ⟨w, act, w'⟩ = [] ∨
      ∃ out, queuedReplies ⟨w, act, w'⟩ = [out] ∧ out.command ∈ w.unanswered ∧
        receivedCommand ⟨w, act, w'⟩ = [] := by
  cases UsbipConn.step_cases taken with
  | stopped | inline | spawned | completed =>
      exact .inl (List.drop_length)
  | @replied cmd replying =>
      rcases drop_pushed w ⟨(retUnlink cmd 0).encode, .unlink cmd⟩ with hnone | hsome
      · exact .inl hnone
      · refine .inr ⟨_, hsome, ?_, rfl⟩
        simp [UsbipConn.unanswered, replying, UsbipReader.unanswered]
  | @sent index task bytes found pc =>
      rcases drop_pushed w ⟨bytes, task.command⟩ with hnone | hsome
      · exact .inl hnone
      · refine .inr ⟨_, hsome, ?_, rfl⟩
        exact UsbipConn.mem_unanswered_of_task (List.mem_of_getElem? found) (by simp [pc])
  | @wrote outgoing queue writing head =>
      left
      show queue.drop w.queue.length = []
      rw [head]
      exact List.drop_eq_nil_of_le (Nat.le_succ _)
  | writeFailed => exact .inl List.drop_nil

theorem mem_unanswered_set {index : Nat} {task : UsbipTask} {pc : UsbipTaskPc}
    (found : w.tasks[index]? = some task) (hpc : task.pc ≠ .finished) {command : UsbipCommand}
    (mem : command ∈ w.reader.unanswered ++
      (w.tasks.set index { task with pc }).flatMap UsbipTask.unanswered) :
    command ∈ w.unanswered := by
  rcases List.mem_append.mp mem with mem | mem
  · exact List.mem_append_left _ mem
  obtain ⟨task', mem', hcommand⟩ := List.mem_flatMap.mp mem
  rcases List.mem_or_eq_of_mem_set mem' with mem' | rfl
  · exact List.mem_append_right _ (List.mem_flatMap.mpr ⟨task', mem', hcommand⟩)
  · unfold UsbipTask.unanswered at hcommand
    split at hcommand
    · cases hcommand
    · have hcommand : command = task.command := List.mem_singleton.mp hcommand
      rw [hcommand]
      exact UsbipConn.mem_unanswered_of_task (List.mem_of_getElem? found) hpc

/-- What is under way was under way before, or was just read. -/
theorem unanswered_step (taken : w.step loop act = some w') {command : UsbipCommand}
    (mem : command ∈ w'.unanswered) :
    command ∈ w.unanswered ∨ command ∈ receivedCommand ⟨w, act, w'⟩ := by
  cases UsbipConn.step_cases taken with
  | stopped reading ended =>
      refine .inl (List.mem_append_right _ ?_)
      simpa [UsbipConn.unanswered, UsbipReader.unanswered] using mem
  | inline reading received inline =>
      rcases List.mem_append.mp mem with mem | mem
      · right
        simpa [receivedCommand, received, UsbipReader.unanswered] using mem
      · exact .inl (List.mem_append_right _ mem)
  | @spawned command' input reading received =>
      rcases List.mem_append.mp mem with mem | mem
      · exact .inl (List.mem_append_left _ mem)
      · rw [List.flatMap_append, List.mem_append] at mem
        rcases mem with mem | mem
        · exact .inl (List.mem_append_right _ mem)
        · right
          simpa [receivedCommand, received, UsbipTask.unanswered] using mem
  | replied replying =>
      refine .inl (List.mem_append_right _ ?_)
      simpa [UsbipConn.unanswered, UsbipReader.unanswered] using mem
  | completed found pc => exact .inl (mem_unanswered_set found (by simp [pc]) mem)
  | sent found pc => exact .inl (mem_unanswered_set found (by simp [pc]) mem)
  | wrote | writeFailed => exact .inl mem

end

/-! ## Runs -/

section

variable {loop : UrbLoop} {input : Bytes} {w w' : UsbipConn} {act : UsbipAction}
  {history : History UsbipConn UsbipAction} {seqnum : UInt32}

/-- What is written was queued, in that order, also when the writer has failed. -/
theorem written_initial (run : UsbipConn.Runs loop input history w) :
    w.written <+: collect queuedReplies history ∧
      (w.writing = true → collect queuedReplies history = w.written ++ w.queue) := by
  induction run with
  | nil => exact ⟨List.prefix_rfl, fun _ => rfl⟩
  | @snoc history pre post act run taken ih =>
      obtain ⟨hinitial, hqueue⟩ := ih
      rw [collect_cons]
      have hlonger := hinitial.trans (List.prefix_append _ (queuedReplies ⟨pre, act, post⟩))
      cases UsbipConn.step_cases taken with
      | stopped | inline | spawned | completed =>
          refine ⟨hlonger, fun hwriting => ?_⟩
          rw [hqueue hwriting]
          simp [queuedReplies]
      | replied | sent =>
          refine ⟨hlonger, fun hwriting => ?_⟩
          have hwritingPre : pre.writing = true := hwriting
          rw [hqueue hwritingPre]
          simp [queuedReplies, pushed_of_writing hwritingPre]
      | @wrote outgoing queue writing head =>
          have hall : collect queuedReplies history ++
              queuedReplies ⟨pre, .write, { pre with queue, written := pre.written ++ [outgoing] }⟩ =
                (pre.written ++ [outgoing]) ++ queue := by
            rw [hqueue writing]
            simp [queuedReplies, head]
          exact ⟨⟨queue, hall.symm⟩, fun _ => hall⟩
      | writeFailed => exact ⟨hlonger, fun hwriting => Bool.noConfusion hwriting⟩

/-- While no submit of `seqnum` is read, none comes to be under way. -/
theorem not_submits_run {start : UsbipConn} (run : Run (UsbipConn.step loop) start history w)
    (hstart : ∀ command ∈ start.unanswered, command.submits seqnum = false)
    (hreceived : ∀ t ∈ history, ∀ command ∈ receivedCommand t, command.submits seqnum = false) :
    ∀ command ∈ w.unanswered, command.submits seqnum = false := by
  refine (run.maintained
    (fun w => ∀ command ∈ w.unanswered, command.submits seqnum = false) hstart ?_).1
  intro t ht taken hpre command mem
  rcases unanswered_step taken mem with mem | mem
  · exact hpre command mem
  · exact hreceived t ht command mem

/-- What is queued in a run was queued by one of its transitions. -/
theorem mem_collect {σ α β : Type} {f : Transition σ α → List β} {history : History σ α} {x : β}
    (mem : x ∈ collect f history) :
    ∃ later t earlier, history = later ++ t :: earlier ∧ x ∈ f t := by
  induction history with
  | nil => cases mem
  | cons t history ih =>
      rw [collect_cons, List.mem_append] at mem
      rcases mem with mem | mem
      · obtain ⟨later, u, earlier, hcut, hu⟩ := ih mem
        exact ⟨t :: later, u, earlier, by rw [hcut, List.cons_append], hu⟩
      · exact ⟨[], t, history, rfl, mem⟩

/-- In an orderly run, a reply to a submit is queued before the replies to its unlinks. -/
theorem consistent_queued (run : UsbipConn.Runs loop input history w) (h : Orderly history) :
    Consistent (collect queuedReplies history) := by
  induction run with
  | nil => exact List.Pairwise.nil
  | @snoc history pre post act run taken ih =>
      rw [collect_cons]
      rcases queued_step taken with hnone | ⟨out, hsome, hout, -⟩
      · rw [hnone, List.append_nil]
        exact ih h.before
      rw [hsome, Consistent, List.map_append]
      refine List.pairwise_append.mpr ⟨ih h.before, List.pairwise_singleton _ _, ?_⟩
      intro _ mem _ mem'
      obtain ⟨first, memFirst, rfl⟩ := List.mem_map.mp mem
      rw [List.mem_singleton.mp mem']
      rintro ⟨seqnum, hunlinks, hsubmits⟩
      -- nothing of that number is under way from the reply to the unlink on
      obtain ⟨later, t, earlier, hcut, hqueued⟩ := mem_collect memFirst
      obtain ⟨hpending, hlater⟩ :=
        h.before later t earlier hcut seqnum ⟨first, hqueued, hunlinks⟩
      rw [hcut] at run
      obtain ⟨-, takenT, runLater⟩ := run.cut
      have hpost : ∀ command ∈ t.post.unanswered, command.submits seqnum = false := by
        intro command memPost
        rcases unanswered_step takenT memPost with memPre | memRead
        · exact hpending command memPre
        · rcases queued_step takenT with hnone | ⟨-, -, -, hread⟩
          · rw [hnone] at hqueued
            cases hqueued
          · rw [hread] at memRead
            cases memRead
      have hnot := not_submits_run runLater hpost hlater out.command hout
      rw [hsubmits] at hnot
      cases hnot

/-- An unlink that is answered while its submit is under way, or is still to come, is
contradicted once all is answered. -/
theorem orderly_of_consistent (run : UsbipConn.Runs loop input history w)
    (hwrites : ∀ t ∈ history, t.act ≠ .writeFails) (hsettled : w.Settled)
    (h : Consistent w.written) : Orderly history := by
  intro later t earlier hcut seqnum ⟨first, hqueued, hunlinks⟩
  have hwritten := written_append_queue run hwrites
  rw [hsettled.empty, List.append_nil, hcut, collect_append, collect_cons] at hwritten
  rw [hcut] at run hwrites
  obtain ⟨runBefore, taken, runLater⟩ := run.cut
  have hwritesLater : ∀ u ∈ later, u.act ≠ .writeFails :=
    fun u hu => hwrites u (List.mem_append_left _ hu)
  have hwriting : t.pre.writing = true :=
    writing_run runBefore fun u hu =>
      hwrites u (List.mem_append_right _ (List.mem_cons_of_mem _ hu))
  have hwritingPost := writing_step taken
    (hwrites t (List.mem_append_right _ List.mem_cons_self)) hwriting
  have hlater := commands_conserved runLater hwritingPost hwritesLater
  rw [hsettled.unanswered, List.append_nil] at hlater
  -- whatever is answered after the unlink does not submit what it unlinked
  have hafter : ∀ second ∈ collect queuedReplies later,
      second.command.submits seqnum = false := by
    intro second mem
    rw [Consistent, ← hwritten, List.map_append] at h
    have hpair := (List.pairwise_append.mp h).2.2
      first.command (List.mem_map_of_mem (List.mem_append_right _ hqueued))
      second.command (List.mem_map_of_mem mem)
    cases hsubmits : second.command.submits seqnum with
    | false => rfl
    | true => exact absurd ⟨seqnum, hunlinks, hsubmits⟩ hpair
  have hanswered : ∀ command ∈ t.post.unanswered ++ collect receivedCommand later,
      command.submits seqnum = false := by
    intro command mem
    obtain ⟨second, memSecond, rfl⟩ := List.mem_map.mp (hlater.mem_iff.mp mem)
    exact hafter second memSecond
  refine ⟨?_, ?_⟩
  · intro command mem
    have hstep := commands_conserved_step taken hwriting
    rcases queued_step taken with hnone | ⟨out, hsome, -, -⟩
    · rw [hnone] at hqueued
      cases hqueued
    · rw [hsome, List.mem_singleton] at hqueued
      rcases List.mem_append.mp
        ((hsome ▸ hstep).mem_iff.mp (List.mem_append_left _ mem)) with mem | mem
      · rw [List.map_singleton, List.mem_singleton] at mem
        rw [mem, ← hqueued]
        exact UsbipCommand.not_submits_of_unlinks hunlinks seqnum
      · exact hanswered command (List.mem_append_left _ mem)
  · intro u hu command mem
    obtain ⟨after, before, hcut⟩ := List.append_of_mem hu
    apply hanswered command (List.mem_append_right _ _)
    rw [hcut, collect_append, collect_cons]
    exact List.mem_append_left _ (List.mem_append_right _ mem)

/-- Unlinks are not contradicted in an orderly run, of either loop.  In a run that has
answered everything, they are not contradicted only if it was orderly. -/
theorem unlinks_consistent_iff (run : UsbipConn.Runs loop input history w) :
    (Orderly history → Consistent w.written) ∧
      ((∀ t ∈ history, t.act ≠ .writeFails) → w.Settled →
        (Consistent w.written ↔ Orderly history)) := by
  have hsound : Orderly history → Consistent w.written := fun h =>
    (consistent_queued run h).sublist ((written_initial run).1.sublist.map _)
  exact ⟨hsound, fun hwrites hsettled => ⟨orderly_of_consistent run hwrites hsettled, hsound⟩⟩

end

namespace Sample

def forwarding : UrbLoop := forwardUrbs 1

/-- The unlink is read, and answered, while the task of the submit runs. -/
def overtaking : List UsbipAction :=
  [.read, .read, .reply, outComplete, .send 0, .read, .write, .write]

/-- The same, with a task for the unlink. -/
def overtakingTask : List UsbipAction :=
  [.read, .read, .complete 1 (.unlink (.ok 0)), .send 1, outComplete, .send 0, .read, .write, .write]

def forwardAfter (acts : List UsbipAction) : History UsbipConn UsbipAction × UsbipConn :=
  replay (UsbipConn.step forwarding) acts ([], unlinking)

theorem runs_forwardAfter (acts : List UsbipAction) :
    UsbipConn.Runs forwarding unlinking.input (forwardAfter acts).1 (forwardAfter acts).2 :=
  Run.nil.replay acts

end Sample

theorem sample_unlinks_consistent :
    Orderly (Sample.connAfter Sample.inOrder).1 ∧ ¬ Orderly (Sample.connAfter Sample.overtaking).1 := by
  have hin := (unlinks_consistent_iff (Sample.runs_connAfter Sample.inOrder)).2
    (by decide +kernel) (by decide +kernel)
  have hover := (unlinks_consistent_iff (Sample.runs_connAfter Sample.overtaking)).1
  exact ⟨hin.mp (by decide +kernel), fun h => absurd (hover h) (by decide +kernel)⟩

/-- The submit is answered after its unlink was, on either loop. -/
theorem unlink_contradicted :
    (¬ ∀ history w, UsbipConn.Runs Sample.serving Sample.unlinking.input history w →
        Consistent w.written) ∧
      ¬ ∀ history w, UsbipConn.Runs Sample.forwarding Sample.unlinking.input history w →
        Consistent w.written := by
  constructor
  · intro h
    exact absurd (h _ _ (Sample.runs_connAfter Sample.overtaking)) (by decide +kernel)
  · intro h
    exact absurd (h _ _ (Sample.runs_forwardAfter Sample.overtakingTask)) (by decide +kernel)

end FarBus.Core
