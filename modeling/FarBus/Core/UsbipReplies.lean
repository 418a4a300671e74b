/-
  Core/UsbipReplies.lean --- what a USB/IP client reads back.

  A client cuts the reply stream by the headers alone: 48 bytes, and after the header of
  an IN submit as many bytes as it announces.  Every reply that the loops put on their
  queue is cut off whole by that rule and echoes its command, and every command that was
  read is answered once.  So what the client parses is, up to order, the list of its
  commands.
-/
import FarBus.Foundation.Conservation
import FarBus.Core.UsbipProxy

set_option autoImplicit false

namespace FarBus.Core

open FarBus.Foundation
open FarBus.Protocol

/-! ## The client's parser -/

inductive UsbipReply where
  | submit (ret : UsbipRetSubmit) (data : Bytes)
  | unlink (ret : UsbipRetUnlink)
  deriving DecidableEq, Repr

/-- The fields of a `USBIP_RET_UNLINK`, at their offsets. -/
def readRetUnlink (header : Bytes) : Except UsbipError UsbipRetUnlink := do
  let seqnum ← readU32Be header 4
  let devid ← readU32Be header 8
  let direction ← readU32Be header 12
  let ep ← readU32Be header 16
  let status ← readI32Be header 20
  return { seqnum, devid, direction, ep, status }

/-- How many bytes a client reads after a header. -/
def dataLength (ret : UsbipRetSubmit) : Nat :=
  if ret.direction = 1 then ret.actualLength.toNat else 0

/-- One reply, and what follows it. -/
def readReply (stream : Bytes) : Option (UsbipReply × Bytes) := do
  let (header, stream) ← readExact 48 stream
  let command ← (readU32Be header 0).toOption
  if command = USBIP_RET_SUBMIT then
    let ret ← (UsbipRetSubmit.decode header).toOption
    let (data, stream) ← readExact (dataLength ret) stream
    return (.submit ret data, stream)
  else
    guard (command = USBIP_RET_UNLINK)
    let ret ← (readRetUnlink header).toOption
    return (.unlink ret, stream)

theorem length_of_readReply {stream rest : Bytes} {reply : UsbipReply}
    (h : readReply stream = some (reply, rest)) : rest.length < stream.length := by
  obtain ⟨⟨header, stream'⟩, hheader, hreply⟩ := Option.bind_eq_some_iff.mp h
  obtain ⟨hlength, hstream⟩ := of_readExact hheader
  obtain ⟨word, -, hbody⟩ := Option.bind_eq_some_iff.mp hreply
  rw [hstream, List.length_append]
  split at hbody
  · obtain ⟨ret, -, hdata⟩ := Option.bind_eq_some_iff.mp hbody
    obtain ⟨⟨data, stream''⟩, hdata, hresult⟩ := Option.bind_eq_some_iff.mp hdata
    obtain ⟨-, hrest⟩ := of_readExact hdata
    cases hresult
    rw [hrest, List.length_append]
    omega
  · obtain ⟨_, -, hunlink⟩ := Option.bind_eq_some_iff.mp hbody
    obtain ⟨ret, -, hresult⟩ := Option.bind_eq_some_iff.mp hunlink
    cases hresult
    omega

/-- The replies of a stream that is parsed to its end. -/
def parseReplies (stream : Bytes) : Option (List UsbipReply) :=
  if stream = [] then some []
  else
    match _h : readReply stream with
    | none => none
    | some (reply, rest) => (parseReplies rest).map fun replies => reply :: replies
termination_by stream.length
decreasing_by exact length_of_readReply _h

theorem parseReplies_nil : parseReplies [] = some [] := by
  rw [parseReplies, if_pos rfl]

theorem parseReplies_of_readReply {stream rest : Bytes} {reply : UsbipReply}
    (h : readReply stream = some (reply, rest)) :
    parseReplies stream = (parseReplies rest).map fun replies => reply :: replies := by
  have hne : stream ≠ [] := by
    intro hnil
    have hlength := length_of_readReply h
    rw [hnil] at hlength
    cases hlength
  rw [parseReplies, if_neg hne]
  split
  · rename_i hnone
    rw [h] at hnone
    cases hnone
  · rename_i reply' rest' hsome
    rw [h] at hsome
    cases hsome
    rfl

/-! ## The replies of the loops are parsed -/

theorem actualLength_toNat {complete : UrbComplete} (h : complete.data.length < 2 ^ 32)
    (cmd : UsbipCmdSubmit) :
    (retSubmit cmd complete).actualLength.toNat = complete.data.length := by
  unfold retSubmit
  rw [if_pos h]
  exact UInt32.toNat_ofNat_of_lt' h

theorem length_eq_dataLength {complete : UrbComplete} (h : complete.data.length < 2 ^ 32)
    (cmd : UsbipCmdSubmit) :
    (if cmd.direction = 1 then complete.data else []).length =
      dataLength (retSubmit cmd complete) := by
  rw [dataLength, actualLength_toNat h]
  show _ = if cmd.direction = 1 then complete.data.length else 0
  split <;> rfl

theorem readReply_encode {ret : UsbipRetSubmit} {data : Bytes} (h : data.length = dataLength ret)
    (rest : Bytes) :
    readReply ((ret.encode ++ data) ++ rest) = some (.submit ret data, rest) := by
  have hword : readU32Be ret.encode 0 = .ok USBIP_RET_SUBMIT := readU32Be_head _ _
  unfold readReply
  rw [List.append_assoc, readExact_append ret.length_encode]
  simp only [Option.bind_eq_bind, Option.bind_some, hword, Except.toOption, ret.decode_encoded,
    readExact_append h, if_true]
  rfl

theorem readReply_retSubmitBytes {complete : UrbComplete} (h : complete.data.length < 2 ^ 32)
    (cmd : UsbipCmdSubmit) (rest : Bytes) :
    readReply (retSubmitBytes cmd complete ++ rest) =
      some (.submit (retSubmit cmd complete) (if cmd.direction = 1 then complete.data else []),
        rest) := by
  have hdata : (if cmd.direction = 1 ∧ complete.data ≠ [] then complete.data else []) =
      if cmd.direction = 1 then complete.data else [] := by
    by_cases hempty : complete.data = [] <;> simp [hempty]
  rw [retSubmitBytes, hdata]
  exact readReply_encode (length_eq_dataLength h cmd) rest

theorem readReply_retUnlink (cmd : UsbipCmdUnlink) (status : Int32) (rest : Bytes) :
    readReply ((retUnlink cmd status).encode ++ rest) =
      some (.unlink (retUnlink cmd status), rest) := by
  have hword : readU32Be (retUnlink cmd status).encode 0 = .ok USBIP_RET_UNLINK :=
    readU32Be_head _ _
  have hret : readRetUnlink (retUnlink cmd status).encode = .ok (retUnlink cmd status) := by
    simp only [readRetUnlink, UsbipRetUnlink.encode, i32Be, readI32Be_eq, readU32Be_skip,
      readU32Be_head]
    simp [Except.map, bind, Except.bind, pure, Except.pure]
  have hne : USBIP_RET_UNLINK ≠ USBIP_RET_SUBMIT := by decide
  unfold readReply
  rw [readExact_append (retUnlink cmd status).length_encode]
  simp only [Option.bind_eq_bind, Option.bind_some, hword, Except.toOption, hret, if_neg hne,
    guard, if_true]
  rfl

/-! ## Commands and their echoes -/

/-- The commands of an input, up to where the loops stop. -/
def commandsOf (input : Bytes) : List UsbipCommand :=
  match _h : readCommand input with
  | none => []
  | some (command, rest) => command :: commandsOf rest
termination_by input.length
decreasing_by exact (of_readCommand _h).1

theorem commandsOf_none {input : Bytes} (h : readCommand input = none) : commandsOf input = [] := by
  rw [commandsOf]
  split
  · rfl
  · rename_i command rest hsome
    rw [h] at hsome
    cases hsome

theorem commandsOf_some {input rest : Bytes} {command : UsbipCommand}
    (h : readCommand input = some (command, rest)) :
    commandsOf input = command :: commandsOf rest := by
  rw [commandsOf]
  split
  · rename_i hnone
    rw [h] at hnone
    cases hnone
  · rename_i command' rest' hsome
    rw [h] at hsome
    cases hsome
    rfl

/-- What a reply repeats of its command. -/
inductive UsbipEcho where
  | submit (seqnum devid direction ep : UInt32)
  | unlink (seqnum devid direction ep : UInt32)
  deriving DecidableEq, Repr

def UsbipCommand.echo : UsbipCommand → UsbipEcho
  | .submit cmd _ => .submit cmd.seqnum cmd.devid cmd.direction cmd.ep
  | .unlink cmd => .unlink cmd.seqnum cmd.devid cmd.direction cmd.ep

def UsbipReply.echo : UsbipReply → UsbipEcho
  | .submit ret _ => .submit ret.seqnum ret.devid ret.direction ret.ep
  | .unlink ret => .unlink ret.seqnum ret.devid ret.direction ret.ep

/-- The bytes are a reply to the command. -/
inductive RepliesTo : Outgoing → Prop where
  | submit (cmd : UsbipCmdSubmit) (outPayload : Bytes) (complete : UrbComplete)
      (fits : complete.data.length < 2 ^ 32) :
      RepliesTo ⟨retSubmitBytes cmd complete, .submit cmd outPayload⟩
  | unlink (cmd : UsbipCmdUnlink) (status : Int32) :
      RepliesTo ⟨(retUnlink cmd status).encode, .unlink cmd⟩

/-- A reply is cut off whole and echoes its command. -/
theorem RepliesTo.readReply {outgoing : Outgoing} (h : RepliesTo outgoing) :
    ∃ reply, reply.echo = outgoing.command.echo ∧
      ∀ rest, FarBus.Core.readReply (outgoing.bytes ++ rest) = some (reply, rest) := by
  cases h with
  | submit cmd outPayload complete fits =>
      exact ⟨_, rfl, readReply_retSubmitBytes fits cmd⟩
  | unlink cmd status => exact ⟨_, rfl, readReply_retUnlink cmd status⟩

theorem parseReplies_written {written : List Outgoing} (h : ∀ out ∈ written, RepliesTo out) :
    ∃ replies, parseReplies (written.flatMap fun out => out.bytes) = some replies ∧
      replies.map UsbipReply.echo = written.map fun out => out.command.echo := by
  induction written with
  | nil => exact ⟨[], parseReplies_nil, rfl⟩
  | cons out written ih =>
      obtain ⟨replies, hparse, hechoes⟩ := ih fun out' mem => h out' (List.mem_cons_of_mem _ mem)
      obtain ⟨reply, hecho, hread⟩ := (h out List.mem_cons_self).readReply
      refine ⟨reply :: replies, ?_, ?_⟩
      · rw [List.flatMap_cons, parseReplies_of_readReply (hread _), hparse]
        rfl
      · rw [List.map_cons, List.map_cons, hecho, hechoes]

/-! ## What a connection receives and answers -/

/-- The command that is read in a step. -/
def receivedCommand (t : Transition UsbipConn UsbipAction) : List UsbipCommand :=
  match t.act, readCommand t.pre.input with
  | .read, some (command, _) => [command]
  | _, _ => []

/-- The replies that join the queue in a step. -/
def queuedReplies (t : Transition UsbipConn UsbipAction) : List Outgoing :=
  t.post.queue.drop t.pre.queue.length

def UsbipReader.unanswered : UsbipReader → List UsbipCommand
  | .replying cmd => [.unlink cmd]
  | .reading | .stopped => []

def UsbipTask.unanswered (task : UsbipTask) : List UsbipCommand :=
  if task.pc = .finished then [] else [task.command]

namespace UsbipConn

/-- The commands that are under way. -/
def unanswered (w : UsbipConn) : List UsbipCommand :=
  w.reader.unanswered ++ w.tasks.flatMap UsbipTask.unanswered

/-- The loop is left, all tasks have finished, and the writer has written everything. -/
structure Settled (w : UsbipConn) : Prop where
  stopped : w.reader = .stopped
  finished : ∀ task ∈ w.tasks, task.pc = .finished
  empty : w.queue = []

theorem Settled.unanswered {w : UsbipConn} (h : w.Settled) : w.unanswered = [] := by
  have htasks : w.tasks.flatMap UsbipTask.unanswered = [] := by
    rw [List.flatMap_eq_nil_iff]
    intro task mem
    rw [UsbipTask.unanswered, if_pos (h.finished task mem)]
  rw [UsbipConn.unanswered, h.stopped, htasks]
  rfl

end UsbipConn

section

variable {loop : UrbLoop} {input : Bytes} {w w' : UsbipConn} {act : UsbipAction}
  {history : History UsbipConn UsbipAction}

theorem pushed_of_writing {outgoing : Outgoing} (h : w.writing = true) :
    w.pushed outgoing = w.queue ++ [outgoing] := by
  rw [UsbipConn.pushed, if_pos h]

theorem writing_step (taken : w.step loop act = some w') (hact : act ≠ .writeFails)
    (hwriting : w.writing = true) : w'.writing = true := by
  cases UsbipConn.step_cases taken with
  | writeFailed => exact absurd rfl hact
  | _ => exact hwriting

theorem writing_run (run : UsbipConn.Runs loop input history w)
    (hwrites : ∀ t ∈ history, t.act ≠ .writeFails) : w.writing = true :=
  (run.maintained (fun w => w.writing = true) rfl
    fun t ht taken hpre => writing_step taken (hwrites t ht) hpre).1

/-- A command is under way from when it is read until its reply is on the queue. -/
theorem commands_conserved_step (taken : w.step loop act = some w') (hwriting : w.writing = true) :
    (w.unanswered ++ receivedCommand ⟨w, act, w'⟩).Perm
      ((queuedReplies ⟨w, act, w'⟩).map (fun out => out.command) ++ w'.unanswered) := by
  cases UsbipConn.step_cases taken with
  | stopped reading ended =>
      simp [UsbipConn.unanswered, receivedCommand, queuedReplies, ended, reading,
        UsbipReader.unanswered]
  | inline reading received inline =>
      simp [UsbipConn.unanswered, receivedCommand, queuedReplies, received, reading,
        UsbipReader.unanswered]
  | spawned reading received =>
      simp [UsbipConn.unanswered, receivedCommand, queuedReplies, received, reading,
        UsbipReader.unanswered, UsbipTask.unanswered]
  | replied replying =>
      simp [UsbipConn.unanswered, receivedCommand, queuedReplies, replying,
        UsbipReader.unanswered, pushed_of_writing hwriting]
  | @completed index task result bytes found pc returned reply =>
      have htasks := perm_flatMap_set UsbipTask.unanswered found { task with pc := .sending bytes }
      have hsame : UsbipTask.unanswered { task with pc := .sending bytes } = task.unanswered := by
        simp [UsbipTask.unanswered, pc]
      rw [hsame] at htasks
      have hkept := (List.perm_append_right_iff _).mp htasks
      simp only [UsbipConn.unanswered, receivedCommand, queuedReplies, List.drop_length,
        List.map_nil, List.nil_append, List.append_nil]
      exact hkept.symm.append_left _
  | @sent index task bytes found pc =>
      have htasks := perm_flatMap_set UsbipTask.unanswered found { task with pc := .finished }
      have hdone : UsbipTask.unanswered { task with pc := .finished } = [] := rfl
      have hopen : task.unanswered = [task.command] := by
        simp [UsbipTask.unanswered, pc]
      rw [hdone, hopen, List.append_nil] at htasks
      simp only [UsbipConn.unanswered, receivedCommand, queuedReplies, pushed_of_writing hwriting,
        List.drop_left, List.map_cons, List.map_nil, List.append_nil, List.perm_iff_count]
      intro command
      have hcount := htasks.count_eq command
      simp only [List.count_append] at hcount ⊢
      omega
  | @wrote outgoing queue writing head =>
      have hdropped : queue.drop w.queue.length = [] := by
        rw [head]
        exact List.drop_eq_nil_of_le (Nat.le_succ _)
      simp [UsbipConn.unanswered, receivedCommand, queuedReplies, hdropped]
  | writeFailed writing => simp [UsbipConn.unanswered, receivedCommand, queuedReplies]

/-- In a run whose writer does not fail. -/
theorem commands_conserved {start : UsbipConn} (run : Run (UsbipConn.step loop) start history w)
    (hstart : start.writing = true) (hwrites : ∀ t ∈ history, t.act ≠ .writeFails) :
    (start.unanswered ++ collect receivedCommand history).Perm
      ((collect queuedReplies history).map (fun out => out.command) ++ w.unanswered) := by
  have hconserved := run.conserved receivedCommand
    (fun t => (queuedReplies t).map fun out => out.command) UsbipConn.unanswered ?_
  · rw [List.map_eq_flatMap, collect_flatMap]
    simpa only [List.map_eq_flatMap] using hconserved
  · intro later t earlier hcut runBefore taken
    apply commands_conserved_step taken
    refine (runBefore.maintained (fun w => w.writing = true) hstart ?_).1
    intro u hu takenU hpre
    refine writing_step takenU (hwrites u ?_) hpre
    rw [hcut]
    exact List.mem_append_right _ (List.mem_cons_of_mem _ hu)

/-- The queue keeps the order. -/
theorem written_append_queue (run : UsbipConn.Runs loop input history w)
    (hwrites : ∀ t ∈ history, t.act ≠ .writeFails) :
    collect queuedReplies history = w.written ++ w.queue := by
  induction run with
  | nil => rfl
  | @snoc history pre post act run taken ih =>
      have hbefore : ∀ t ∈ history, t.act ≠ .writeFails :=
        fun t ht => hwrites t (List.mem_cons_of_mem _ ht)
      have hwriting := writing_run run hbefore
      rw [collect_cons, ih hbefore]
      cases UsbipConn.step_cases taken with
      | stopped | inline | spawned | completed => simp [queuedReplies]
      | replied | sent => simp [queuedReplies, pushed_of_writing hwriting]
      | @wrote outgoing queue writing head =>
          simp [queuedReplies, head]
      | writeFailed => exact absurd rfl (hwrites _ List.mem_cons_self)

/-- What has been read is an initial part of the commands. -/
theorem commandsOf_eq (run : UsbipConn.Runs loop input history w) :
    commandsOf input = collect receivedCommand history ++ commandsOf w.input ∧
      (w.reader = .stopped → commandsOf w.input = []) := by
  induction run with
  | nil => exact ⟨rfl, nofun⟩
  | @snoc history pre post act run taken ih =>
      obtain ⟨hread, hstopped⟩ := ih
      rw [collect_cons, hread]
      cases UsbipConn.step_cases taken with
      | stopped reading ended => simp [receivedCommand, ended, commandsOf_none ended]
      | inline reading received =>
          refine ⟨by simp [receivedCommand, received, commandsOf_some received], ?_⟩
          intro h
          cases h
      | spawned reading received =>
          refine ⟨by simp [receivedCommand, received, commandsOf_some received], ?_⟩
          intro h
          rw [reading] at h
          cases h
      | replied replying =>
          refine ⟨by simp [receivedCommand], ?_⟩
          intro h
          cases h
      | completed | sent | wrote | writeFailed =>
          exact ⟨by simp [receivedCommand], hstopped⟩

/-- A completion fits in its reply. -/
def UrbLoop.Fits (loop : UrbLoop) : Prop :=
  ∀ urb complete, loop.mayReturn urb (.ok complete) = true → complete.data.length < 2 ^ 32

theorem replyBytes_repliesTo (hfits : loop.Fits) {command : UsbipCommand} {result : UsbipResult}
    {bytes : Bytes} (returned : UsbipConn.returns loop command result = true)
    (reply : replyBytes command result = some bytes) : RepliesTo ⟨bytes, command⟩ := by
  cases command with
  | submit cmd outPayload =>
      cases result with
      | urb result =>
          cases reply
          cases result with
          | ok complete => exact .submit cmd outPayload complete (hfits _ _ returned)
          | error err => exact .submit cmd outPayload (failedUrb cmd.seqnum) (Nat.two_pow_pos 32)
      | unlink result => cases reply
  | unlink cmd =>
      cases result with
      | urb result => cases reply
      | unlink result =>
          cases reply
          exact .unlink cmd _

/-- Whatever was or will be written is a reply to its command. -/
structure Replying (w : UsbipConn) : Prop where
  sending : ∀ task ∈ w.tasks, ∀ bytes, task.pc = .sending bytes → RepliesTo ⟨bytes, task.command⟩
  queue : ∀ out ∈ w.queue, RepliesTo out
  written : ∀ out ∈ w.written, RepliesTo out

/-- Whatever was or will be written has a property. -/
structure AllReplies (P : Outgoing → Prop) (w : UsbipConn) : Prop where
  sending : ∀ task ∈ w.tasks, ∀ bytes, task.pc = .sending bytes → P ⟨bytes, task.command⟩
  queue : ∀ out ∈ w.queue, P out
  written : ∀ out ∈ w.written, P out

theorem mem_pushed {out outgoing : Outgoing} (h : out ∈ w.pushed outgoing) :
    out ∈ w.queue ∨ out = outgoing := by
  unfold UsbipConn.pushed at h
  split at h
  · rcases List.mem_append.mp h with mem | mem
    · exact .inl mem
    · exact .inr (List.mem_singleton.mp mem)
  · exact .inl h

/-- A reply comes from the reader, which answers an unlink, or from a call that returned. -/
theorem AllReplies.step {P P' : Outgoing → Prop} (h : AllReplies P w)
    (taken : w.step loop act = some w') (hmono : ∀ out, P out → P' out)
    (hreply : ∀ cmd, P' ⟨(retUnlink cmd 0).encode, .unlink cmd⟩)
    (hcomplete : ∀ (index : Nat) result task bytes, act = .complete index result →
      w.tasks[index]? = some task → UsbipConn.returns loop task.command result = true →
      replyBytes task.command result = some bytes → P' ⟨bytes, task.command⟩) :
    AllReplies P' w' := by
  have hsending := fun task mem bytes pc => hmono _ (h.sending task mem bytes pc)
  have hqueue := fun out mem => hmono _ (h.queue out mem)
  have hwritten := fun out mem => hmono _ (h.written out mem)
  cases UsbipConn.step_cases taken with
  | stopped | inline => exact ⟨hsending, hqueue, hwritten⟩
  | spawned =>
      refine ⟨?_, hqueue, hwritten⟩
      intro task mem bytes pc
      rcases List.mem_append.mp mem with mem | mem
      · exact hsending task mem bytes pc
      · rw [List.mem_singleton.mp mem] at pc
        cases pc
  | @replied cmd replying =>
      refine ⟨hsending, ?_, hwritten⟩
      intro out mem
      rcases mem_pushed mem with mem | rfl
      · exact hqueue out mem
      · exact hreply cmd
  | @completed index task result bytes found pc returned reply =>
      refine ⟨?_, hqueue, hwritten⟩
      intro task' mem bytes' pc'
      rcases List.mem_or_eq_of_mem_set mem with mem | rfl
      · exact hsending task' mem bytes' pc'
      · cases pc'
        exact hcomplete index result task bytes rfl found returned reply
  | @sent index task bytes found pc =>
      refine ⟨?_, ?_, hwritten⟩
      · intro task' mem bytes' pc'
        rcases List.mem_or_eq_of_mem_set mem with mem | rfl
        · exact hsending task' mem bytes' pc'
        · cases pc'
      · intro out mem
        rcases mem_pushed mem with mem | rfl
        · exact hqueue out mem
        · exact hsending task (List.mem_of_getElem? found) bytes pc
  | @wrote outgoing queue writing head =>
      rw [head] at hqueue
      refine ⟨hsending, fun out mem => hqueue out (List.mem_cons_of_mem _ mem), ?_⟩
      intro out mem
      rcases List.mem_append.mp mem with mem | mem
      · exact hwritten out mem
      · rw [List.mem_singleton.mp mem]
        exact hqueue outgoing List.mem_cons_self
  | writeFailed => exact ⟨hsending, by simp, hwritten⟩

theorem AllReplies.nil (P : Outgoing → Prop) (input : Bytes) : AllReplies P { input } :=
  ⟨by simp, by simp, by simp⟩

theorem Replying.step (hfits : loop.Fits) (h : Replying w) (taken : w.step loop act = some w') :
    Replying w' := by
  have hall : AllReplies RepliesTo w := ⟨h.sending, h.queue, h.written⟩
  have hafter : AllReplies RepliesTo w' := by
    refine hall.step taken (fun _ hbefore => hbefore) (fun cmd => .unlink cmd 0) ?_
    intro index result task bytes _ found returned reply
    exact replyBytes_repliesTo hfits returned reply
  exact ⟨hafter.sending, hafter.queue, hafter.written⟩

theorem replying_run (hfits : loop.Fits) (run : UsbipConn.Runs loop input history w) :
    Replying w :=
  run.invariant Replying ⟨by simp, by simp, by simp⟩ fun _ _ _ h taken => h.step hfits taken

end

theorem serveUrbs_fits (deviceId : DeviceId) : (serveUrbs deviceId).Fits := by
  intro urb complete hreturn
  have hcomplete : complete = completeUrb urb :=
    Except.ok.inj (of_decide_eq_true hreturn)
  rw [hcomplete]
  exact Nat.lt_of_le_of_lt (length_completeUrb_le urb) (by decide)

theorem forwardUrbs_fits (deviceId : DeviceId) : (forwardUrbs deviceId).Fits := by
  intro urb complete hreturn
  cases hencode : encode (.urbComplete complete) with
  | error err =>
      simp only [forwardUrbs, hencode] at hreturn
      cases hreturn
  | ok frame => exact ((encode_eq_ok_iff _ _).mp hencode).1.fields

/-- The reply stream is self-delimiting and complete.  On either loop, whatever has been
written parses to its end into replies that echo the commands they answer; and once the
loop is left, the tasks have finished and everything is written, these are, up to order,
the echoes of the commands, each of them once. -/
theorem replies_self_delimiting {loop : UrbLoop} {deviceId : DeviceId} {input : Bytes}
    {history : History UsbipConn UsbipAction} {w : UsbipConn}
    (hloop : loop = serveUrbs deviceId ∨ loop = forwardUrbs deviceId)
    (run : UsbipConn.Runs loop input history w) :
    ∃ replies, parseReplies (w.written.flatMap fun out => out.bytes) = some replies ∧
      (replies.map UsbipReply.echo = w.written.map fun out => out.command.echo) ∧
      ((∀ t ∈ history, t.act ≠ .writeFails) → w.Settled →
        (replies.map UsbipReply.echo).Perm ((commandsOf input).map UsbipCommand.echo)) := by
  have hfits : loop.Fits := by
    rcases hloop with rfl | rfl
    · exact serveUrbs_fits deviceId
    · exact forwardUrbs_fits deviceId
  obtain ⟨replies, hparse, hechoes⟩ := parseReplies_written (replying_run hfits run).written
  refine ⟨replies, hparse, hechoes, ?_⟩
  intro hwrites hsettled
  have hconserved := commands_conserved run rfl hwrites
  obtain ⟨hread, hstopped⟩ := commandsOf_eq run
  have hnone : UsbipConn.unanswered { input } = [] := rfl
  rw [hnone, List.nil_append, hsettled.unanswered, List.append_nil,
    written_append_queue run hwrites, hsettled.empty, List.append_nil] at hconserved
  rw [hread, hstopped hsettled.stopped, List.append_nil, hechoes]
  simpa only [List.map_map, Function.comp_def] using (hconserved.map UsbipCommand.echo).symm

instance UsbipConn.decidableSettled (w : UsbipConn) : Decidable w.Settled :=
  decidable_of_iff
    (w.reader = .stopped ∧ (∀ task ∈ w.tasks, task.pc = .finished) ∧ w.queue = []) <| by
    constructor
    · intro h
      exact ⟨h.1, h.2.1, h.2.2⟩
    · intro h
      exact ⟨h.stopped, h.finished, h.empty⟩

instance (act : UsbipAction) : Decidable (act = .writeFails) :=
  match act with
  | .writeFails => .isTrue rfl
  | .read | .reply | .complete _ _ | .send _ | .write => .isFalse UsbipAction.noConfusion

namespace Sample

/-- The submit is completed before the unlink is read, and everything is written. -/
def inOrder : List UsbipAction :=
  [.read, outComplete, .send 0, .read, .reply, .read, .write, .write]

end Sample

theorem sample_replies_self_delimiting :
    commandsOf Sample.unlinking.input = [.submit Sample.outSubmit [5, 6], .unlink Sample.unlink] ∧
    ∃ replies, parseReplies ((Sample.connAfter Sample.inOrder).2.written.flatMap
        fun out => out.bytes) = some replies ∧
      (replies.map UsbipReply.echo).Perm
        ((commandsOf Sample.unlinking.input).map UsbipCommand.echo) := by
  have run := Sample.runs_connAfter Sample.inOrder
  obtain ⟨hread, hstopped⟩ := commandsOf_eq run
  have hcommands : collect receivedCommand (Sample.connAfter Sample.inOrder).1 =
      [.submit Sample.outSubmit [5, 6], .unlink Sample.unlink] := by
    decide +kernel
  rw [hcommands, hstopped (by decide +kernel), List.append_nil] at hread
  obtain ⟨replies, hparse, -, hsettled⟩ := replies_self_delimiting (.inl rfl) run
  exact ⟨hread, replies, hparse, hsettled (by decide +kernel) (by decide +kernel)⟩

end FarBus.Core
