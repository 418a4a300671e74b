/-
  Core/ExactlyOnce.lean --- how often a URB is executed.

  A call puts its URB into the channel once, the pump writes it once, the session reads it
  once and spawns one task for it, and the task hands it over once.  At each of these
  stages it may get lost; nowhere is it doubled.  And where the call returns a
  completion of status 0, none of the refusals on the way was it.
-/
import FarBus.Core.Completions
import FarBus.Core.ControlReplies
import FarBus.Core.Execution
import FarBus.Core.ForwarderRuns

set_option autoImplicit false

namespace FarBus.Core

open FarBus.Foundation
open FarBus.Protocol

/-! ## What a session executes -/

/-- The URBs among the messages. -/
def submitsOf (msgs : List Message) : List UrbSubmit :=
  msgs.flatMap fun
    | .urbSubmit urb => [urb]
    | _ => []

/-- The task is about to hand its URB to a backend. -/
def TaskPc.hands : TaskPc → Bool
  | .callCustom | .callHost _ | .callEmulated => true
  | _ => false

/-- The task has not handed its URB over yet. -/
def TaskPc.waits : TaskPc → Bool
  | .start | .snapshot | .blocking _ => true
  | pc => pc.hands

theorem Task.handsOver_iff (task : Task) : task.HandsOver ↔ task.pc.hands = true := by
  unfold Task.HandsOver TaskPc.hands
  split <;> simp_all

/-- The URB that a task of session `s` hands over in a step. -/
def executed (s : Nat) (t : Transition World Action) : List UrbSubmit :=
  match t.act with
  | .task i _ =>
      match t.pre.tasks[i]? with
      | some task => if task.session = s ∧ task.pc.hands = true then [task.urb] else []
      | none => []
  | _ => []

/-- The URB that the reader is busy with. -/
def Pc.unexecuted : Pc → List UrbSubmit
  | .urbTokens urb _ | .urbLease urb _ _ | .urbPresence urb _ | .urbSlot urb _ _ => [urb]
  | _ => []

def Task.unexecuted (s : Nat) (task : Task) : List UrbSubmit :=
  if task.session = s ∧ task.pc.waits = true then [task.urb] else []

def World.readerUnexecuted (w : World) (s : Nat) : List UrbSubmit :=
  match w.sessions[s]? with
  | some session => session.pc.unexecuted
  | none => []

/-- The URBs of a session that have not been handed over. -/
def World.unexecuted (w : World) (s : Nat) : List UrbSubmit :=
  w.readerUnexecuted s ++ w.tasks.flatMap (Task.unexecuted s)

section

variable {platform : Platform} {w w' : World} {act : Action} {s : Nat} {urb : UrbSubmit}

theorem mem_executed_iff {t : Transition World Action} :
    urb ∈ executed s t ↔ ∃ i task, HandedOver i task t ∧ task.session = s ∧ task.urb = urb := by
  constructor
  · intro mem
    unfold executed at mem
    split at mem
    · rename_i i io hact
      split at mem
      · rename_i task found
        split at mem
        · rename_i hands
          exact ⟨i, task, ⟨⟨io, hact⟩, found, task.handsOver_iff.mpr hands.2⟩, hands.1,
            (List.mem_singleton.mp mem).symm⟩
        · cases mem
      · cases mem
    · cases mem
  · rintro ⟨i, task, ⟨⟨io, hact⟩, found, hands⟩, hsession, rfl⟩
    simp only [executed, hact, found, hsession, task.handsOver_iff.mp hands, and_self, if_true]
    exact List.mem_singleton_self _

/-- A task that goes on has handed its URB over, or has not got further with it. -/
theorem Task.advance_waits {task : Task} {server : ServerState} {io : TaskIo} {pc : TaskPc}
    (taken : task.advance server io = some pc) (hwaits : pc.waits = true) :
    task.pc.waits = true ∧ task.pc.hands = false := by
  unfold Task.advance at taken
  cases hpc : task.pc with
  | start =>
      simp only [hpc] at taken
      exact ⟨rfl, rfl⟩
  | snapshot | blocking devices => exact ⟨rfl, rfl⟩
  | inCustom =>
      simp only [hpc] at taken
      split at taken
      · split at taken <;> cases taken
        cases hwaits
      · cases taken
  | callCustom | callHost | inHost | callEmulated | recheck | release | sending | finished =>
      simp only [hpc] at taken
      cases taken <;> cases hwaits

theorem TaskPc.waits_of_hands {pc : TaskPc} (h : pc.hands = true) : pc.waits = true := by
  cases pc <;> first | rfl | cases h

theorem Session.dispatch_unexecuted (session : Session) (server : ServerState) (msg : Message) :
    (session.dispatch platform server msg).pc.unexecuted.Sublist (submitsOf [msg]) := by
  cases msg with
  | pairRequest req | urbUnlink unlink | urbSubmit urb =>
      simp only [Session.dispatch]
      split
      · exact List.nil_sublist _
      · first | exact List.nil_sublist _ | exact List.Sublist.refl _
  | _ => exact List.nil_sublist _

/-- A section of the reader passes its URB on, to the next section or to a task, or drops
it. -/
theorem Session.AdvanceCases.unexecuted {now : Instant} {draw : Draw} {server : ServerState}
    {session : Session} {outcome : Outcome}
    (entered : session.AdvanceCases platform now draw server s outcome) :
    (outcome.session.pc.unexecuted ++
      outcome.spawned.toList.flatMap (Task.unexecuted s)).Sublist session.pc.unexecuted := by
  cases entered with
  | urbSpawned pc free => simp [pc, Pc.unexecuted, Task.unexecuted, TaskPc.waits]
  | tokensExamined pc | urbLeased pc | urbPresent pc => simp [pc, Pc.unexecuted]
  | _ => exact List.nil_sublist _

theorem Session.AdvanceCases.spawned_away {now : Instant} {draw : Draw} {server : ServerState}
    {index : Nat} {session : Session} {outcome : Outcome}
    (entered : session.AdvanceCases platform now draw server index outcome) (hindex : index ≠ s) :
    outcome.spawned.toList.flatMap (Task.unexecuted s) = [] := by
  cases entered with
  | urbSpawned pc free => simp [Task.unexecuted, hindex]
  | _ => rfl

theorem World.readerUnexecuted_of_found {session : Session}
    (found : w.sessions[s]? = some session) : w.readerUnexecuted s = session.pc.unexecuted := by
  simp only [World.readerUnexecuted, found]

/-- What is handed over in a step, or still to be, was there or is read now. -/
theorem executed_step (taken : w.step platform act = some w') :
    (executed s ⟨w, act, w'⟩ ++ w'.unexecuted s).Subperm
      (w.unexecuted s ++ submitsOf (received s ⟨w, act, w'⟩)) := by
  -- a step of a reader, maybe of this one
  have hreader : ∀ spawned : List Task, executed s ⟨w, act, w'⟩ = [] →
      w'.tasks = w.tasks ++ spawned →
      (w'.readerUnexecuted s ++ spawned.flatMap (Task.unexecuted s)).Sublist
        (w.readerUnexecuted s ++ submitsOf (received s ⟨w, act, w'⟩)) →
      (executed s ⟨w, act, w'⟩ ++ w'.unexecuted s).Subperm
        (w.unexecuted s ++ submitsOf (received s ⟨w, act, w'⟩)) := by
    intro spawned hexecuted htasks hsublist
    rw [hexecuted, World.unexecuted, World.unexecuted, htasks, List.flatMap_append,
      List.subperm_ext_iff]
    intro urb _
    have hcount := hsublist.count_le urb
    simp only [List.count_append, List.nil_append] at hcount ⊢
    omega
  -- of a reader that has no URB afterwards, or is another session's
  have hdrops : executed s ⟨w, act, w'⟩ = [] → w'.tasks = w.tasks →
      (w'.readerUnexecuted s).Sublist (w.readerUnexecuted s) →
      (executed s ⟨w, act, w'⟩ ++ w'.unexecuted s).Subperm
        (w.unexecuted s ++ submitsOf (received s ⟨w, act, w'⟩)) := by
    intro hexecuted htasks hsublist
    refine hreader [] hexecuted (htasks.trans (List.append_nil _).symm) ?_
    rw [List.flatMap_nil, List.append_nil]
    exact hsublist.trans (List.sublist_append_left _ _)
  have hset : ∀ {index : Nat} {session session' : Session}, w.sessions[index]? = some session →
      (session'.pc.unexecuted).Sublist session.pc.unexecuted →
      ((w.setSession index session').readerUnexecuted s).Sublist (w.readerUnexecuted s) := by
    intro index session session' found hsublist
    unfold World.readerUnexecuted World.setSession
    by_cases hindex : index = s
    · subst hindex
      simp only [lookup_set_self found session', found]
      exact hsublist
    · simp only [List.getElem?_set_ne hindex]
      exact List.Sublist.refl _
  cases World.step_cases taken with
  | tick | refreshHostDevices | renewExpiredPin => exact hdrops rfl rfl (List.Sublist.refl _)
  | accept =>
      suffices hsame : World.readerUnexecuted { w with sessions := w.sessions ++ [{}] } s =
          w.readerUnexecuted s by
        refine hdrops rfl rfl ?_
        rw [hsame]
      unfold World.readerUnexecuted
      rcases Nat.lt_trichotomy s w.sessions.length with hlt | rfl | hgt
      · simp only [List.getElem?_append_left hlt]
      · simp [Pc.unexecuted]
      · have hlength : (w.sessions ++ [({} : Session)]).length ≤ s := by
          rw [List.length_append]
          exact hgt
        simp only [List.getElem?_eq_none hlength, List.getElem?_eq_none (Nat.le_of_lt hgt)]
  | @recv index session msg found pc =>
      have hdispatch := @Session.dispatch_unexecuted platform session w.server msg
      refine hreader [] rfl (List.append_nil _).symm ?_
      rw [List.flatMap_nil, List.append_nil]
      by_cases hindex : index = s
      · subst hindex
        have hnone : w.readerUnexecuted index = [] := by
          rw [World.readerUnexecuted_of_found found, pc]
          rfl
        rw [World.readerUnexecuted_of_found (lookup_set_self found _), hnone]
        simpa [received] using hdispatch
      · have hsame : (w.setSession index (session.dispatch platform w.server msg)).readerUnexecuted s =
            w.readerUnexecuted s := by
          unfold World.readerUnexecuted World.setSession
          simp only [List.getElem?_set_ne hindex]
        rw [hsame]
        exact List.sublist_append_left _ _
  | eof found pc | joined found pc | release found pc => exact hdrops rfl rfl (hset found (List.nil_sublist _))
  | fail found joining => exact hdrops rfl rfl (hset found (List.nil_sublist _))
  | @write index session msg queue pc found joining head kept =>
      refine hdrops rfl rfl (hset found ?_)
      rcases kept with rfl | rfl
      · exact List.Sublist.refl _
      · exact List.nil_sublist _
  | @advance index session draw outcome found htaken =>
      have entered := Session.advance_cases htaken
      refine hreader _ rfl rfl ?_
      by_cases hindex : index = s
      · subst hindex
        have hthere : World.readerUnexecuted { (w.setSession index outcome.session) with
            server := outcome.server
            tasks := w.tasks ++ outcome.spawned.toList } index = outcome.session.pc.unexecuted :=
          World.readerUnexecuted_of_found (lookup_set_self found _)
        rw [hthere, World.readerUnexecuted_of_found found]
        exact entered.unexecuted.trans (List.sublist_append_left _ _)
      · rw [entered.spawned_away hindex, List.append_nil]
        have hsame : World.readerUnexecuted { (w.setSession index outcome.session) with
            server := outcome.server
            tasks := w.tasks ++ outcome.spawned.toList } s = w.readerUnexecuted s := by
          unfold World.readerUnexecuted World.setSession
          simp only [List.getElem?_set_ne hindex]
        rw [hsame]
        exact List.sublist_append_left _ _
  | @task i task session reached io pc found home htaken reach =>
      obtain ⟨-, -, hpc⟩ := Task.reach_control reach
      have hthere : World.readerUnexecuted { (w.setSession task.session reached) with
          tasks := w.tasks.set i { task with pc } } s = w.readerUnexecuted s := by
        unfold World.readerUnexecuted World.setSession
        by_cases hindex : task.session = s
        · subst hindex
          simp only [lookup_set_self home, home, hpc]
        · simp only [List.getElem?_set_ne hindex]
      have htasks := perm_flatMap_set (Task.unexecuted s) found { task with pc }
      have hhere : ∀ post, (executed s ⟨w, .task i io, post⟩ ++
          Task.unexecuted s { task with pc }).Sublist (Task.unexecuted s task) := by
        intro post
        simp only [executed, found, Task.unexecuted]
        by_cases hindex : task.session = s
        · by_cases hwaits : pc.waits = true
          · obtain ⟨hwaited, hhands⟩ := Task.advance_waits htaken hwaits
            simp [hindex, hwaits, hwaited, hhands]
          · by_cases hhands : task.pc.hands = true
            · simp [hindex, hwaits, hhands, TaskPc.waits_of_hands hhands]
            · simp [hindex, hwaits, hhands]
        · simp [hindex]
      rw [List.subperm_ext_iff]
      intro urb _
      have hcount := (hhere { (w.setSession task.session reached) with
        tasks := w.tasks.set i { task with pc } }).count_le urb
      have hcounts := htasks.count_eq urb
      simp only [World.unexecuted, hthere, List.count_append] at hcount hcounts ⊢
      omega

/-- No session executes a URB more often than it has read it, whatever else goes on and
however long its tasks go on after it. -/
theorem executed_le_received {start : World} {history : ServerHistory}
    (hstart : World.Starting platform start) (run : World.Runs platform start history w) (s : Nat) :
    (collect (executed s) history).Subperm (submitsOf (collect (received s) history)) := by
  have hconserved := run.conserved_le (fun t => submitsOf (received s t)) (executed s)
    (fun w => w.unexecuted s) fun _ _ _ _ _ taken => executed_step taken
  have hnone : start.unexecuted s = [] := by cases hstart <;> rfl
  rw [hnone, List.nil_append] at hconserved
  unfold submitsOf at hconserved ⊢
  rw [collect_flatMap]
  exact (List.sublist_append_left _ _).subperm.trans hconserved

end

/-! ## What a connection is asked for -/

/-- A client that has just connected, for the first time or again. -/
inductive Connected (platform : Platform) : LinkedWorld → Prop where
  | first {start : LinkedWorld} (starting : LinkedWorld.Starting platform start) :
      Connected platform start
  | again {start w w' : LinkedWorld} {history : LinkedHistory}
      (starting : LinkedWorld.Starting platform start)
      (run : LinkedWorld.Runs platform start history w)
      (taken : w.step platform .reconnect = some w') : Connected platform w'

/-- The URB of a call that is made in a step. -/
def called (t : Transition LinkedWorld LinkedAction) : List UrbSubmit :=
  match t.act with
  | .client (.urb urb) => [urb]
  | _ => []

/-- The URB that is handed over in a step, at the other end of the link. -/
def linkExecuted (t : Transition LinkedWorld LinkedAction) : List UrbSubmit :=
  match serverTransition t with
  | some u => executed t.pre.session u
  | none => []

/-- The URBs in the channel of the client, and on their way to the server. -/
def ClientWorld.urbsUnderWay (w : ClientWorld) : List UrbSubmit :=
  submitsOf (w.queue.map ClientCmd.message) ++ submitsOf (w.toServer.map Sent.msg)

/-- The URBs of a connection that have not been handed over. -/
def LinkedWorld.unexecuted (w : LinkedWorld) : List UrbSubmit :=
  w.client.urbsUnderWay ++ w.server.unexecuted w.session

/-- Nothing is under way on a new connection, nor at its session. -/
structure LinkedWorld.Blank (platform : Platform) (w : LinkedWorld) : Prop where
  pump : w.client.pump = some {}
  queue : w.client.queue = []
  toServer : w.client.toServer = []
  toClient : w.client.toClient = []
  session : w.server.sessions[w.session]? = some {}
  tasks : ∀ task ∈ w.server.tasks, task.session ≠ w.session
  reachable : w.server.Reachable platform

section

variable {platform : Platform} {start w w' : LinkedWorld} {history : LinkedHistory}
  {act : LinkedAction}

/-- The sessions of the tasks are there. -/
theorem World.Reachable.task_session {server : World} (h : server.Reachable platform) :
    ∀ task ∈ server.tasks, task.session < server.sessions.length := by
  obtain ⟨start, history, hstart, run⟩ := h
  refine run.invariant
    (fun w => ∀ task ∈ w.tasks, task.session < w.sessions.length) ?_ ?_
  · cases hstart <;> exact fun _ mem => absurd mem List.not_mem_nil
  · intro pre act post hpre taken task mem
    have hlength := World.step_sessions_length taken
    obtain ⟨i, found⟩ := List.mem_iff_getElem?.mp mem
    rcases World.step_task taken found with hbefore | ⟨before, io, pc, -, hbefore, -, rfl⟩ |
      ⟨s, draw, session, urb, owner, presence, -, found', -, rfl⟩
    · exact Nat.lt_of_lt_of_le (hpre task (List.mem_of_getElem? hbefore)) hlength
    · exact Nat.lt_of_lt_of_le (hpre before (List.mem_of_getElem? hbefore)) hlength
    · exact Nat.lt_of_lt_of_le (List.getElem?_eq_some_iff.mp found').1 hlength

theorem LinkedWorld.Starting.reachable (h : LinkedWorld.Starting platform start) :
    start.server.Reachable platform := by
  cases h with
  | connected starting run =>
      exact ⟨_, _, starting, run.snoc (show World.step platform _ .accept = some _ from rfl)⟩

theorem World.Reachable.linked_run (h : start.server.Reachable platform)
    (run : Run (LinkedWorld.step platform) start history w) : w.server.Reachable platform := by
  induction run with
  | nil => exact h
  | snoc _ taken ih => exact ih.linked_step taken

/-- The channel of a pump that has returned is empty. -/
theorem queue_of_down (hstart : LinkedWorld.Starting platform start)
    (run : LinkedWorld.Runs platform start history w) (down : w.client.pump = none) :
    w.client.queue = [] := by
  have hinv : w.client.pump = none → w.client.queue = [] := by
    refine run.invariant (fun w => w.client.pump = none → w.client.queue = []) ?_ ?_
    · cases hstart with
      | connected => exact fun _ => rfl
    · intro pre act post hpre taken down
      cases LinkedWorld.step_cases taken with
      | client atClient htaken =>
          cases ClientWorld.step_cases htaken with
          | urbDown | unlinkDown | controlDown => exact hpre down
          | urb _ up | unlink _ up | control _ up =>
              rw [up] at down
              cases down
          | took | read => cases down
          | takeFailed | stop => rfl
          | reconnect | receive | complete | reply => cases atClient
      | reconnect => cases down
      | delivered | garbled | write | server => exact hpre down
  exact hinv down

theorem Connected.blank (h : Connected platform w) : w.Blank platform := by
  cases h with
  | first starting =>
      have hreachable := starting.reachable
      cases starting with
      | @connected first server past starting run =>
          have hbefore : server.Reachable platform := ⟨first, past, starting, run⟩
          refine ⟨rfl, rfl, rfl, rfl, List.getElem?_concat_length, ?_, hreachable⟩
          exact fun task mem => Nat.ne_of_lt (hbefore.task_session task mem)
  | @again start before _ past starting run taken =>
      have hbefore := starting.reachable.linked_run run
      have hreachable := hbefore.linked_step taken
      cases LinkedWorld.step_cases taken with
      | reconnect down accepted =>
          cases World.step_cases accepted with
          | accept =>
              have hqueue : before.client.queue = [] := queue_of_down starting run down
              refine ⟨rfl, hqueue, rfl, rfl, List.getElem?_concat_length, ?_,
                hreachable⟩
              exact fun task mem => Nat.ne_of_lt (hbefore.task_session task mem)

theorem LinkedWorld.Blank.unexecuted (h : w.Blank platform) : w.unexecuted = [] := by
  have htasks : w.server.tasks.flatMap (Task.unexecuted w.session) = [] := by
    rw [List.flatMap_eq_nil_iff]
    intro task mem
    unfold Task.unexecuted
    rw [if_neg fun hunexecuted => h.tasks task mem hunexecuted.1]
  have hreader : w.server.readerUnexecuted w.session = [] := World.readerUnexecuted_of_found h.session
  rw [LinkedWorld.unexecuted, ClientWorld.urbsUnderWay, h.queue, h.toServer, World.unexecuted, hreader,
    htasks]
  rfl

theorem submitsOf_append (msgs msgs' : List Message) :
    submitsOf (msgs ++ msgs') = submitsOf msgs ++ submitsOf msgs' := List.flatMap_append

theorem submitsOf_cons (msg : Message) (msgs : List Message) :
    submitsOf (msg :: msgs) = submitsOf [msg] ++ submitsOf msgs := submitsOf_append [msg] msgs

theorem submitsOf_control (req : ControlRequest) : submitsOf [req.message] = [] := by
  cases req <;> rfl

/-- The client's steps. -/
theorem urbsUnderWay_step {client client' : ClientWorld} {act : ClientAction} {post : LinkedWorld}
    (atClient : act.atClient = true) (taken : client.step act = some client') :
    client'.urbsUnderWay.Subperm (client.urbsUnderWay ++ called ⟨w, .client act, post⟩) := by
  rw [List.subperm_ext_iff]
  intro urb _
  simp only [ClientWorld.urbsUnderWay, List.count_append]
  cases ClientWorld.step_cases taken with
  | urbDown | unlinkDown | controlDown | read => exact Nat.le_add_right _ _
  | stop up | takeFailed up head failed =>
      have hnone : (submitsOf (([] : List ClientCmd).map ClientCmd.message)).count urb = 0 := rfl
      refine Nat.le_trans ?_ (Nat.le_add_right _ _)
      exact Nat.add_le_add_right (Nat.le_trans (Nat.le_of_eq hnone) (Nat.zero_le _)) _
  | unlink unlink up =>
      rw [List.map_append, submitsOf_append, List.count_append]
      exact Nat.le_add_right _ _
  | control req up =>
      rw [List.map_append, submitsOf_append, List.count_append, List.map_singleton,
        ClientCmd.message, submitsOf_control]
      exact Nat.le_add_right _ _
  | urb submit up =>
      have hnew : submitsOf [(ClientCmd.urb submit client.urbs.length).message] = [submit] := rfl
      rw [List.map_append, submitsOf_append, List.count_append, List.map_singleton, hnew]
      exact Nat.le_of_eq (Nat.add_right_comm _ _ _)
  | @took pump cmd queue io up head written =>
      rw [head, List.map_cons, submitsOf_cons cmd.message, List.count_append, List.map_append,
        submitsOf_append, List.count_append, List.map_singleton]
      dsimp only
      omega
  | reconnect | receive | complete | reply => cases atClient

/-- A message is read off the link. -/
theorem urbsUnderWay_read {client : ClientWorld} {sent : Sent} {toServer : List Sent}
    (head : client.toServer = sent :: toServer) :
    (submitsOf [sent.msg] ++ ({ client with toServer } : ClientWorld).urbsUnderWay).Perm
      client.urbsUnderWay := by
  have hcons := submitsOf_cons sent.msg (toServer.map Sent.msg)
  rw [ClientWorld.urbsUnderWay, ClientWorld.urbsUnderWay, head, List.map_cons, hcons]
  exact List.perm_append_comm_assoc _ _ _

/-- One step of a connection: what is handed over, or still to be, was there or is called
for now. -/
theorem linkExecuted_step (hact : act ≠ .reconnect) (taken : w.step platform act = some w') :
    w'.session = w.session ∧ (linkExecuted ⟨w, act, w'⟩ ++ w'.unexecuted).Subperm
      (w.unexecuted ++ called ⟨w, act, w'⟩) := by
  -- the server moves, and reads what the client had on its way
  have hserver : ∀ {server : World} {act' : Action}, w.server.step platform act' = some server →
      w'.server = server → w'.session = w.session →
      linkExecuted ⟨w, act, w'⟩ = executed w.session ⟨w.server, act', server⟩ →
      (submitsOf (received w.session ⟨w.server, act', server⟩) ++ w'.client.urbsUnderWay).Subperm
        w.client.urbsUnderWay →
      (linkExecuted ⟨w, act, w'⟩ ++ w'.unexecuted).Subperm
        (w.unexecuted ++ called ⟨w, act, w'⟩) := by
    intro server act' hstep hpost hsession hexecuted hclient
    have hmoved := executed_step (s := w.session) hstep
    rw [List.subperm_ext_iff]
    intro urb _
    have hcount := hmoved.count_le urb
    have hcounts := hclient.count_le urb
    rw [hexecuted, LinkedWorld.unexecuted, LinkedWorld.unexecuted, hpost, hsession]
    simp only [List.count_append] at hcount hcounts ⊢
    omega
  cases LinkedWorld.step_cases taken with
  | @client act' client atClient htaken =>
      refine ⟨rfl, ?_⟩
      have hmoved : client.urbsUnderWay.Subperm
          (w.client.urbsUnderWay ++ called ⟨w, .client act', { w with client }⟩) :=
        urbsUnderWay_step atClient htaken
      rw [List.subperm_ext_iff]
      intro urb _
      have hcount := hmoved.count_le urb
      have hnone : linkExecuted ⟨w, .client act', { w with client }⟩ = [] := rfl
      rw [hnone, LinkedWorld.unexecuted, LinkedWorld.unexecuted]
      simp only [List.count_append, List.count_nil] at hcount ⊢
      omega
  | reconnect => exact absurd rfl hact
  | @delivered sent toServer server head carried htaken =>
      refine ⟨rfl, hserver htaken rfl rfl ?_ ?_⟩
      · simp only [linkExecuted, serverTransition, head, carried, List.head?_cons, Option.map_some]
      · simp only [received, if_true]
        exact (urbsUnderWay_read head).subperm
  | @garbled sent toServer server head lost htaken =>
      refine ⟨rfl, hserver htaken rfl rfl ?_ ?_⟩
      · simp only [linkExecuted, serverTransition, head, lost, List.head?_cons, Option.map_some]
      · exact (List.sublist_append_right _ _).subperm.trans (urbsUnderWay_read head).subperm
  | write htaken => exact ⟨rfl, hserver htaken rfl rfl rfl (List.Subperm.refl _)⟩
  | server offLink htaken =>
      refine ⟨rfl, hserver htaken rfl rfl rfl ?_⟩
      rw [(received_of_offLink offLink _ _).1]
      exact List.Subperm.refl _

/-- On a connection, what has been handed over, or is still to be, was called for. -/
theorem linkExecuted_run (hblank : start.Blank platform)
    (run : Run (LinkedWorld.step platform) start history w)
    (hsame : ∀ t ∈ history, t.act ≠ .reconnect) :
    (collect linkExecuted history).Subperm (collect called history) := by
  have hconserved := run.conserved_le called linkExecuted LinkedWorld.unexecuted <| by
    intro later t earlier hcut _ taken
    have hact : t.act ≠ .reconnect := by
      apply hsame
      rw [hcut]
      exact List.mem_append_right _ List.mem_cons_self
    exact (linkExecuted_step hact taken).2
  rw [hblank.unexecuted, List.nil_append] at hconserved
  exact (List.sublist_append_left _ _).subperm.trans hconserved

/-! ## The calls of a connection -/

/-- What the calls for URBs are for, in order. -/
def ClientWorld.calledUrbs (w : ClientWorld) : List UrbSubmit := w.urbs.map ClientCall.request

theorem map_request_deliver {ρ α : Type} (calls : List (ClientCall ρ α)) (answers : Answers α) :
    (deliver calls answers).map ClientCall.request = calls.map ClientCall.request := by
  apply List.ext_getElem?
  intro id
  rw [List.getElem?_map, deliver_getElem?, List.getElem?_map, Option.map_map]
  rfl

@[simp] theorem ClientWorld.calledUrbs_tell (w : ClientWorld) (told : Told) :
    (w.tell told).calledUrbs = w.calledUrbs := map_request_deliver _ _

theorem calledUrbs_step (taken : w.step platform act = some w') :
    w'.client.calledUrbs = w.client.calledUrbs ++ called ⟨w, act, w'⟩ := by
  cases LinkedWorld.step_cases taken with
  | @client act' client atClient htaken =>
      cases ClientWorld.step_cases htaken with
      | urbDown | urb => simp [ClientWorld.calledUrbs, called]
      | unlinkDown | unlink | controlDown | control => exact (List.append_nil _).symm
      | took | read | stop =>
          simp only [called, List.append_nil]
          exact ClientWorld.calledUrbs_tell _ _
      | takeFailed =>
          simp only [called, List.append_nil]
          exact (ClientWorld.calledUrbs_tell _ _).trans
            ((ClientWorld.calledUrbs_tell _ _).trans (ClientWorld.calledUrbs_tell _ _))
      | reconnect | receive | complete | reply => cases atClient
  | reconnect | delivered | garbled | write | server => exact (List.append_nil _).symm

/-- A call that was made in a run is among those of the run. -/
theorem calledUrbs_run (run : Run (LinkedWorld.step platform) start history w) :
    w.client.calledUrbs = start.client.calledUrbs ++ collect called history := by
  induction run with
  | nil => exact (List.append_nil _).symm
  | snoc run taken ih => rw [calledUrbs_step taken, ih, collect_cons, List.append_assoc]

end

/-! ## What a completion of status 0 stands for -/

/-- A completion of status 0 is one for a URB that was handed over. -/
def BackedBy (done : UrbSubmit → Prop) : Message → Prop
  | .urbComplete complete => complete.status = 0 → ∃ urb, done urb ∧ urb.seq = complete.seq
  | _ => True

/-- The task has handed its URB over, or comes to some other status. -/
def Task.Backed (done : UrbSubmit → Prop) (task : Task) : Prop :=
  match task.pc with
  | .inCustom | .inHost _ => done task.urb
  | .recheck result | .release result | .sending result => result.status = 0 → done task.urb
  | _ => True

/-- What session `s` says, or is about to say. -/
structure World.Backed (done : UrbSubmit → Prop) (s : Nat) (w : World) : Prop where
  tasks : ∀ task ∈ w.tasks, task.session = s → task.Backed done
  replying : ∀ session, w.sessions[s]? = some session → ∀ msg, session.pc = .replying msg →
    BackedBy done msg
  queue : ∀ session, w.sessions[s]? = some session → ∀ msg ∈ session.queue, BackedBy done msg

/-- What the calls from number `base` on were told, or are about to be. -/
structure ClientWorld.Backed (done : UrbSubmit → Prop) (base : Nat) (w : ClientWorld) : Prop where
  queued : ∀ urb id, .urb urb id ∈ w.queue → w.Asked id urb
  pending : ∀ pump, w.pump = some pump → ∀ (seq : UInt32) id, pump.pendingUrbs[seq]? = some id →
    ∃ urb, w.Asked id urb ∧ urb.seq = seq
  arriving : ∀ arriving ∈ w.toClient, BackedBy done arriving.msg
  answered : ∀ (id : Nat) urb complete, base ≤ id →
    w.urbs[id]? = some ⟨urb, some (.ok complete)⟩ → complete.status = 0 →
    ∃ urb', done urb' ∧ urb'.seq = urb.seq

section

variable {platform : Platform} {done done' : UrbSubmit → Prop} {w w' : World} {act : Action} {s : Nat}

theorem BackedBy.mono (hdone : ∀ urb, done urb → done' urb) {msg : Message} (h : BackedBy done msg) :
    BackedBy done' msg := by
  cases msg with
  | urbComplete complete =>
      intro hstatus
      obtain ⟨urb, hurb, hseq⟩ := h hstatus
      exact ⟨urb, hdone urb hurb, hseq⟩
  | _ => trivial

theorem Task.Backed.mono (hdone : ∀ urb, done urb → done' urb) {task : Task} (h : task.Backed done) :
    task.Backed done' := by
  unfold Task.Backed at h ⊢
  cases hpc : task.pc with
  | inCustom | inHost =>
      rw [hpc] at h
      exact hdone _ h
  | recheck | release | sending =>
      rw [hpc] at h
      exact fun hstatus => hdone _ (h hstatus)
  | start | callCustom | snapshot | blocking | callHost | callEmulated | finished => trivial

/-- A task that comes to status 0 has handed its URB over before, or does so now. -/
theorem Task.Backed.advance {task : Task} {server : ServerState} {io : TaskIo} {pc : TaskPc}
    (h : task.Backed done) (taken : task.advance server io = some pc)
    (hands : task.pc.hands = true → done task.urb) : Task.Backed done { task with pc } := by
  have hfailed : (failedUrb task.urb.seq).status = 0 → done task.urb := by
    intro hstatus
    cases hstatus
  unfold Task.Backed at h ⊢
  unfold Task.advance at taken
  cases hpc : task.pc with
  | start =>
      simp only [hpc] at taken
      split at taken
      · split at taken <;> cases taken <;> trivial
      · cases taken
        exact hfailed
  | callCustom | callHost devices =>
      simp only [hpc] at taken
      cases taken
      exact hands (by rw [hpc]; rfl)
  | inCustom =>
      simp only [hpc] at taken h
      split at taken
      · split at taken <;> cases taken
        exact fun _ => h
      · cases taken
  | snapshot =>
      simp only [hpc] at taken
      split at taken <;> cases taken
      · trivial
      · trivial
      · exact hfailed
  | blocking devices =>
      simp only [hpc] at taken
      split at taken <;> cases taken
      · trivial
      · exact hfailed
  | inHost devices =>
      simp only [hpc] at taken h
      cases taken
      exact fun _ => h
  | callEmulated =>
      simp only [hpc] at taken
      cases taken
      exact fun _ => hands (by rw [hpc]; rfl)
  | recheck result =>
      simp only [hpc] at taken h
      cases taken
      dsimp only
      split
      · exact h
      · exact hfailed
  | release result =>
      simp only [hpc] at taken h
      cases taken
      exact h
  | sending | finished =>
      simp only [hpc] at taken
      cases taken <;> trivial

theorem Session.AdvanceCases.backed {now : Instant} {draw : Draw} {server : ServerState}
    {index : Nat} {session : Session} {outcome : Outcome}
    (entered : session.AdvanceCases platform now draw server index outcome) {msg : Message}
    (pc' : outcome.session.pc = .replying msg) : BackedBy done msg := by
  cases entered with
  | urbRefused pc refused | urbAbsent pc absent =>
      cases pc'
      intro hstatus
      cases hstatus
  | pinRefused | paired | tokenUnknown | tokenRefused | listed | attachUnknown | attached | detached
  | unlinked =>
      cases pc'
      trivial
  | replied | pinAccepted | issued | tokenAccepted | authorizedDevices | authorizedAttach
  | authorizedDetach | tokensExamined | urbLeased | urbPresent | urbSpawned => cases pc'

theorem Session.dispatch_backed {server : ServerState} {session : Session} {msg reply : Message}
    (pc' : (session.dispatch platform server msg).pc = .replying reply) : BackedBy done reply := by
  cases msg with
  | urbSubmit urb =>
      simp only [Session.dispatch] at pc'
      split at pc' <;> cases pc'
      intro hstatus
      cases hstatus
  | pairRequest | urbUnlink =>
      simp only [Session.dispatch] at pc'
      split at pc' <;> cases pc'
      trivial
  | deviceListRequest | attachRequest | detachRequest => cases pc'
  | _ =>
      cases pc'
      trivial

/-- A step of the server. -/
theorem World.Backed.step (h : w.Backed done s) (taken : w.step platform act = some w')
    (hseq : ∀ (i : Nat) (task : Task), w.tasks[i]? = some task →
      ∀ result, task.pc.result = some result → result.seq = task.urb.seq)
    (hdone : ∀ urb, done urb ∨ urb ∈ executed s ⟨w, act, w'⟩ → done' urb) : w'.Backed done' s := by
  have hmono : ∀ urb, done urb → done' urb := fun urb hurb => hdone urb (.inl hurb)
  refine ⟨?_, ?_, ?_⟩
  · intro task mem home
    obtain ⟨i, found⟩ := List.mem_iff_getElem?.mp mem
    rcases World.step_task taken found with hbefore | ⟨before, io, pc, hact, hbefore, hadvance, rfl⟩ |
      ⟨s', draw, session, urb, owner, presence, -, -, -, rfl⟩
    · exact (h.tasks task (List.mem_of_getElem? hbefore) home).mono hmono
    · refine ((h.tasks before (List.mem_of_getElem? hbefore) home).mono hmono).advance hadvance ?_
      intro hands
      apply hdone
      right
      exact mem_executed_iff.mpr
        ⟨i, before, ⟨⟨io, hact⟩, hbefore, before.handsOver_iff.mpr hands⟩, home, rfl⟩
    · trivial
  · intro session' found' msg pc'
    rcases World.step_session taken found' with ⟨-, -, rfl⟩ | ⟨session, found, hmove⟩
    · cases pc'
    · cases hmove with
      | kept quiet peer principal pc =>
          rw [pc] at pc'
          exact (h.replying session found msg pc').mono hmono
      | recv msg' hact pc result =>
          rw [result] at pc'
          exact Session.dispatch_backed pc'
      | advance draw outcome hact entered result =>
          rw [result] at pc'
          exact entered.backed pc'
      | left quiet live peer principal pc =>
          rcases pc with pc | pc | pc <;> rw [pc] at pc' <;> cases pc'
  · intro session' found' msg mem
    rcases World.step_session taken found' with ⟨-, -, rfl⟩ | ⟨session, found, -⟩
    · cases mem
    · have hqueued : ∀ msg ∈ session.queue, BackedBy done' msg :=
        fun msg mem => (h.queue session found msg mem).mono hmono
      cases World.step_queue_cases taken found found' with
      | kept hqueue =>
          rw [hqueue] at mem
          exact hqueued msg mem
      | written written hact head =>
          apply hqueued
          rw [head]
          exact List.mem_cons_of_mem _ mem
      | replied draw reply hact pc room hqueue =>
          rw [hqueue] at mem
          rcases List.mem_append.mp mem with mem | mem
          · exact hqueued msg mem
          · rw [List.mem_singleton.mp mem]
            exact (h.replying session found reply pc).mono hmono
      | sent i io task result hact hfound home pc room hqueue =>
          rw [hqueue] at mem
          rcases List.mem_append.mp mem with mem | mem
          · exact hqueued msg mem
          · rw [List.mem_singleton.mp mem]
            intro hstatus
            have hbacked := h.tasks task (List.mem_of_getElem? hfound) home
            simp only [Task.Backed, pc] at hbacked
            exact ⟨task.urb, hmono _ (hbacked hstatus), (hseq i task hfound result (by rw [pc]; rfl)).symm⟩

end

/-! ## What the calls are told -/

section

variable {done done' : UrbSubmit → Prop} {base : Nat} {w w' : ClientWorld} {act : ClientAction}

theorem ClientWorld.Backed.mono (hdone : ∀ urb, done urb → done' urb) (h : w.Backed done base) :
    w.Backed done' base where
  queued := h.queued
  pending := h.pending
  arriving arriving mem := (h.arriving arriving mem).mono hdone
  answered id urb complete hid hcall hstatus := by
    obtain ⟨urb', hurb', hseq⟩ := h.answered id urb complete hid hcall hstatus
    exact ⟨urb', hdone urb' hurb', hseq⟩

/-- Nobody is told anything but `Closed`. -/
theorem ClientWorld.Backed.tell (h : w.Backed done base) {told : Told}
    (hclosed : ∃ replies, told.urbs = closedAll replies) : (w.tell told).Backed done base where
  queued urb id mem := (h.queued urb id mem).tell told
  pending pump up seq id hpending := by
    obtain ⟨urb, hasked, hseq⟩ := h.pending pump up seq id hpending
    exact ⟨urb, hasked.tell told, hseq⟩
  arriving := h.arriving
  answered id urb complete hid hcall hstatus := by
    obtain ⟨replies, hclosed⟩ := hclosed
    rcases of_deliver hcall with hbefore | ⟨-, hnow⟩
    · exact h.answered id urb complete hid hbefore hstatus
    · rw [hclosed, lookup_closedAll] at hnow
      split at hnow <;> cases hnow

/-- A URB is called for, and told nothing yet but that there is no pump. -/
theorem ClientWorld.Backed.called (h : w.Backed done base) {call : ClientCall UrbSubmit UrbComplete}
    (hcall : ∀ complete, call.answer ≠ some (.ok complete)) {queue : List ClientCmd}
    (hqueue : ∀ cmd ∈ queue, cmd ∈ w.queue ∨ cmd = .urb call.request w.urbs.length) :
    ClientWorld.Backed done base { w with urbs := w.urbs ++ [call], queue } where
  queued urb id mem := by
    rcases hqueue _ mem with mem | hnew
    · obtain ⟨answer, hasked⟩ := h.queued urb id mem
      exact ⟨answer, by rw [List.getElem?_append_left (List.getElem?_eq_some_iff.mp hasked).1, hasked]⟩
    · cases hnew
      exact ⟨call.answer, List.getElem?_concat_length⟩
  pending pump up seq id hpending := by
    obtain ⟨urb, ⟨answer, hasked⟩, hseq⟩ := h.pending pump up seq id hpending
    refine ⟨urb, ⟨answer, ?_⟩, hseq⟩
    rw [List.getElem?_append_left (List.getElem?_eq_some_iff.mp hasked).1, hasked]
  arriving := h.arriving
  answered id urb complete hid hfound hstatus := by
    dsimp only at hfound
    rw [List.getElem?_append] at hfound
    split at hfound
    · exact h.answered id urb complete hid hfound hstatus
    · rw [List.getElem?_singleton] at hfound
      split at hfound
      · rw [Option.some.injEq] at hfound
        rw [hfound] at hcall
        exact absurd rfl (hcall complete)
      · cases hfound

/-- A command leaves the channel. -/
theorem ClientWorld.Backed.taken (h : w.Backed done base) {pump : Pump} {cmd : ClientCmd}
    {queue : List ClientCmd} (head : w.queue = cmd :: queue) :
    ClientWorld.Backed done base { w.tell (pump.register cmd).1 with queue } := by
  have htold := h.tell (Pump.register_closes pump cmd)
  refine ⟨?_, htold.pending, htold.arriving, htold.answered⟩
  intro urb id mem
  apply htold.queued
  rw [ClientWorld.tell, head]
  exact List.mem_cons_of_mem _ mem

/-- A command is registered. -/
theorem ClientWorld.Backed.register (h : w.Backed done base) {pump : Pump} {cmd : ClientCmd}
    {queue : List ClientCmd} (up : w.pump = some pump) (head : w.queue = cmd :: queue) :
    ClientWorld.Backed done base
      { w.tell (pump.register cmd).1 with queue, pump := some (pump.register cmd).2 } := by
  have htaken := @ClientWorld.Backed.taken _ _ _ h pump _ _ head
  refine ⟨htaken.queued, ?_, htaken.arriving, htaken.answered⟩
  intro pump' up' seq id hpending
  cases up'
  cases cmd with
  | control | unlink => exact htaken.pending pump up seq id hpending
  | urb urb reply =>
      simp only [Pump.register, lookup_insert] at hpending
      split at hpending
      · rename_i hseq
        cases hpending
        refine ⟨urb, (h.queued urb id ?_).tell _, hseq.symm⟩
        rw [head]
        exact List.mem_cons_self
      · exact htaken.pending pump up seq id hpending

/-- The pump ends. -/
theorem ClientWorld.Backed.shutdown (h : w.Backed done base) (pump : Pump) :
    (w.shutdown pump).Backed done base := by
  have htold : (w.tell (pump.shutdown w.queue)).Backed done base := h.tell ⟨_, rfl⟩
  refine ⟨?_, ?_, htold.arriving, htold.answered⟩
  · intro urb id mem
    cases mem
  · intro pump' up'
    cases up'

/-- A message is read: a completion reaches the call whose sequence number it has. -/
theorem ClientWorld.Backed.read (h : w.Backed done base) {pump : Pump} {arriving : Arriving}
    {toClient : List Arriving} (up : w.pump = some pump) (head : w.toClient = arriving :: toClient) :
    ClientWorld.Backed done base
      { w.tell (pump.dispatch arriving.msg).1 with
        pump := some (pump.dispatch arriving.msg).2
        toClient } := by
  have hnow : BackedBy done arriving.msg := h.arriving arriving (by rw [head]; exact List.mem_cons_self)
  have hlater : ∀ arriving ∈ toClient, BackedBy done arriving.msg := by
    intro arriving mem
    apply h.arriving
    rw [head]
    exact List.mem_cons_of_mem _ mem
  cases hmsg : isUrbComplete arriving.msg with
  | false =>
      obtain ⟨htold, hpending⟩ := pump.dispatch_other hmsg
      have htell := h.tell ⟨[], htold⟩
      refine ⟨htell.queued, ?_, hlater, htell.answered⟩
      intro pump' up' seq id hid
      cases up'
      rw [hpending] at hid
      exact htell.pending pump up seq id hid
  | true =>
      obtain ⟨complete, hmsg⟩ := exists_of_isUrbComplete hmsg
      rw [hmsg] at hnow ⊢
      cases hpending : pump.pendingUrbs[complete.seq]? with
      | none =>
          have hdispatch : pump.dispatch (.urbComplete complete) = ({}, pump) := by
            simp only [Pump.dispatch, hpending]
          have htell : (w.tell {}).Backed done base := h.tell ⟨[], rfl⟩
          rw [hdispatch]
          refine ⟨htell.queued, ?_, hlater, htell.answered⟩
          intro pump' up' seq id hid
          cases up'
          exact htell.pending pump up seq id hid
      | some id =>
          have hdispatch : pump.dispatch (.urbComplete complete) =
              ({ urbs := [(id, .ok complete)] },
                { pump with pendingUrbs := pump.pendingUrbs.erase complete.seq }) := by
            simp only [Pump.dispatch, hpending]
          rw [hdispatch]
          refine ⟨fun urb id mem => (h.queued urb id mem).tell _, ?_, hlater, ?_⟩
          · intro pump' up' seq id' hid
            cases up'
            dsimp only at hid
            rw [lookup_erase] at hid
            split at hid
            · cases hid
            · obtain ⟨urb, hasked, hseq⟩ := h.pending pump up seq id' hid
              exact ⟨urb, hasked.tell _, hseq⟩
          · intro id' urb complete' hbase hcall hstatus
            rcases of_deliver hcall with hbefore | ⟨hwaits, htold⟩
            · exact h.answered id' urb complete' hbase hbefore hstatus
            · rw [lookup_singleton] at htold
              split at htold
              · rename_i hsame
                cases htold
                subst hsame
                -- the number was registered for this very call
                obtain ⟨urb'', hasked, hseq⟩ := h.pending pump up complete.seq id' hpending
                obtain rfl := ClientWorld.Asked.unique ⟨_, hwaits⟩ hasked
                obtain ⟨urb', hurb', hseq'⟩ := hnow hstatus
                exact ⟨urb', hurb', hseq'.trans hseq.symm⟩
              · cases htold

theorem ClientWorld.Backed.step (h : w.Backed done base) (atClient : act.atClient = true)
    (taken : w.step act = some w') : w'.Backed done base := by
  -- a command for no URB joins the channel
  have hqueue : ∀ cmd : ClientCmd, cmd.urbReply = none → ∀ urb id,
      ClientCmd.urb urb id ∈ w.queue ++ [cmd] → w.Asked id urb := by
    intro cmd hother urb id mem
    rcases List.mem_append.mp mem with mem | mem
    · exact h.queued urb id mem
    · rw [← List.mem_singleton.mp mem] at hother
      cases hother
  cases ClientWorld.step_cases taken with
  | urbDown urb down => exact h.called (fun complete heq => by cases heq) fun cmd mem => .inl mem
  | urb urb up =>
      refine h.called (fun complete heq => by cases heq) fun cmd mem => ?_
      exact (List.mem_append.mp mem).imp_right List.mem_singleton.mp
  | unlinkDown | controlDown => exact ⟨h.queued, h.pending, h.arriving, h.answered⟩
  | unlink | control => exact ⟨hqueue _ rfl, h.pending, h.arriving, h.answered⟩
  | took up head =>
      have hregistered := h.register up head
      exact ⟨hregistered.queued, hregistered.pending, hregistered.arriving, hregistered.answered⟩
  | takeFailed up head =>
      exact ((h.taken head).tell ⟨[], (Pump.writeFailed_pendingUrbs _ _ _).2⟩).shutdown _
  | read up head => exact h.read up head
  | stop => exact h.shutdown _
  | reconnect | receive | complete | reply => cases atClient

end

/-! ## A connection -/

section

variable {platform : Platform} {start w w' : LinkedWorld} {history : LinkedHistory}
  {act : LinkedAction}

theorem World.Reachable.result_seq {server : World} (h : server.Reachable platform)
    (hcustom : server.server.CompleterKeepsSeq) :
    ∀ (i : Nat) (task : Task), server.tasks[i]? = some task →
      ∀ result, task.pc.result = some result → result.seq = task.urb.seq := by
  obtain ⟨start, history, hstart, run⟩ := h
  refine task_result_seq hstart ?_ run
  unfold ServerState.CompleterKeepsSeq at hcustom ⊢
  rwa [completer_run run] at hcustom

/-- What has been handed over on a connection, and what the two ends say about it. -/
structure LinkedWorld.Backed (base : Nat) (history : LinkedHistory) (w : LinkedWorld) : Prop where
  server : w.server.Backed (fun urb => urb ∈ collect linkExecuted history) w.session
  client : w.client.Backed (fun urb => urb ∈ collect linkExecuted history) base

theorem LinkedWorld.Blank.backed (h : w.Blank platform) :
    LinkedWorld.Backed w.client.urbs.length [] w := by
  refine ⟨⟨?_, ?_, ?_⟩, ⟨?_, ?_, ?_, ?_⟩⟩
  · exact fun task mem home => absurd home (h.tasks task mem)
  · intro session found msg pc
    rw [h.session] at found
    cases found
    cases pc
  · intro session found msg mem
    rw [h.session] at found
    cases found
    cases mem
  · intro urb id mem
    rw [h.queue] at mem
    cases mem
  · intro pump up seq id hpending
    rw [h.pump] at up
    cases up
    simp at hpending
  · intro arriving mem
    rw [h.toClient] at mem
    cases mem
  · intro id urb complete hbase hcall
    exact absurd (List.getElem?_eq_some_iff.mp hcall).1 (Nat.not_lt.mpr hbase)

theorem LinkedWorld.Backed.step {base : Nat} (h : w.Backed base history)
    (hreachable : w.server.Reachable platform) (hcustom : w.server.server.CompleterKeepsSeq)
    (hact : act ≠ .reconnect) (taken : w.step platform act = some w') :
    w'.Backed base (⟨w, act, w'⟩ :: history) := by
  have hdone : ∀ urb, urb ∈ collect linkExecuted history →
      urb ∈ collect linkExecuted (⟨w, act, w'⟩ :: history) :=
    fun urb mem => List.mem_append_left _ mem
  constructor
  · rw [(linkExecuted_step hact taken).1]
    rcases serverTransition_cases taken with ⟨hnone, hserver⟩ | ⟨act', hsome, htaken⟩
    · rw [hserver]
      exact ⟨fun task mem home => (h.server.tasks task mem home).mono hdone,
        fun session found msg pc => (h.server.replying session found msg pc).mono hdone,
        fun session found msg mem => (h.server.queue session found msg mem).mono hdone⟩
    · refine h.server.step htaken (hreachable.result_seq hcustom) ?_
      intro urb hurb
      rw [collect_cons, List.mem_append]
      refine hurb.imp_right fun mem => ?_
      simp only [linkExecuted, hsome]
      exact mem
  · refine ClientWorld.Backed.mono hdone ?_
    cases LinkedWorld.step_cases taken with
    | client atClient htaken => exact h.client.step atClient htaken
    | reconnect => exact absurd rfl hact
    | delivered | garbled =>
        exact ⟨h.client.queued, h.client.pending, h.client.arriving, h.client.answered⟩
    | server => exact h.client
    | write htaken =>
        refine ⟨h.client.queued, h.client.pending, ?_, h.client.answered⟩
        intro arriving mem
        rcases List.mem_append.mp mem with mem | mem
        · exact h.client.arriving arriving mem
        · obtain ⟨session, msg, queue, found, -⟩ := World.write_cases htaken
          exact h.server.queue session found _ (mem_outgoing mem found)

theorem backed_run (hblank : start.Blank platform) (hcustom : start.server.server.CompleterKeepsSeq)
    (run : Run (LinkedWorld.step platform) start history w)
    (hsame : ∀ t ∈ history, t.act ≠ .reconnect) : w.Backed start.client.urbs.length history := by
  induction run with
  | nil => exact hblank.backed
  | @snoc history pre post act run taken ih =>
      have hpre := ih fun t mem => hsame t (List.mem_cons_of_mem _ mem)
      refine hpre.step (hblank.reachable.linked_run run) ?_ (hsame _ List.mem_cons_self) taken
      unfold ServerState.CompleterKeepsSeq at hcustom ⊢
      rwa [completer_run (server_run run)]

/-- A URB is executed once.  On one connection, the backends are handed no URB more often
than it was called for.  Where no two calls use the same sequence number that is once at
most, and once exactly where the call has returned a completion of status 0. -/
theorem urb_executed_once (hconnected : Connected platform start)
    (hcustom : start.server.server.CompleterKeepsSeq)
    (run : Run (LinkedWorld.step platform) start history w)
    (hsame : ∀ t ∈ history, t.act ≠ .reconnect) :
    (collect linkExecuted history).Subperm (collect called history) ∧
    (((collect called history).map UrbSubmit.seq).Nodup →
      (collect linkExecuted history).Nodup ∧
      ∀ (id : Nat) (urb : UrbSubmit) (complete : UrbComplete), start.client.urbs.length ≤ id →
        w.client.Returns id urb (.ok complete) → complete.status = 0 →
        (collect linkExecuted history).count urb = 1) := by
  have hblank := hconnected.blank
  have hsub := linkExecuted_run hblank run hsame
  refine ⟨hsub, fun hdistinct => ?_⟩
  have hcalled : (collect called history).Nodup := hdistinct.of_map _
  have honce : (collect linkExecuted history).Nodup := by
    rw [List.nodup_iff_count_le_one] at hcalled ⊢
    exact fun urb => Nat.le_trans (hsub.count_le urb) (hcalled urb)
  refine ⟨honce, ?_⟩
  intro id urb complete hbase hreturns hstatus
  have hanswered := returns_ok hreturns
  obtain ⟨urb', hexecuted, hseq⟩ :=
    (backed_run hblank hcustom run hsame).client.answered id urb complete hbase hanswered hstatus
  have hurb : urb ∈ collect called history := by
    have hasked : w.client.calledUrbs[id]? = some urb := by
      rw [ClientWorld.calledUrbs, List.getElem?_map, hanswered]
      rfl
    have hlength : start.client.calledUrbs.length ≤ id := by
      rwa [ClientWorld.calledUrbs, List.length_map]
    rw [calledUrbs_run run, List.getElem?_append_right hlength] at hasked
    exact List.mem_of_getElem? hasked
  have heq := List.inj_on_of_nodup_map hdistinct (hsub.subset hexecuted) hurb hseq
  subst heq
  exact List.count_eq_one_of_mem honce hexecuted

end

namespace Sample

def keyboardUrb : UrbSubmit :=
  { seq := 7, deviceId := 1, endpoint := 129, transfer := .interrupt, requestedLength := 8, data := [] }

/-- The session reads a message, and goes on for `n` sections. -/
def serves (n : Nat) : List LinkedAction :=
  .deliver :: List.replicate n (.server (.advance 0 (draw 9)))

/-- The client greets, pairs, attaches the keyboard and asks it for a report. -/
def executes : List LinkedAction :=
  [.client (.control (.hello peer)), .client (.control (.pair peer pinHash)),
    .client (.control (.attach 1 (draw 9).token)), .client (.urb keyboardUrb)] ++
  List.replicate 4 (.client (.take (.ok ()))) ++ [1, 4, 4, 4].flatMap serves ++
  List.replicate 5 (.server (.task 0 io)) ++ List.replicate 4 .write ++
  List.replicate 4 (.client .read)

def staysConnected : LinkedAction → Bool
  | .reconnect => false
  | _ => true

end Sample

theorem sample_urb_executed_once :
    (collect linkExecuted (Sample.linkedAfter Sample.executes).1).count Sample.keyboardUrb = 1 := by
  have hsame : ∀ t ∈ (Sample.linkedAfter Sample.executes).1, t.act ≠ .reconnect := by
    have hall : (Sample.linkedAfter Sample.executes).1.all
        (fun t => Sample.staysConnected t.act) = true := by
      decide +kernel
    intro t mem heq
    have hstays := List.all_eq_true.mp hall t mem
    rw [heq] at hstays
    cases hstays
  have hcustom : Sample.linkedStart.server.server.CompleterKeepsSeq := by
    intro custom installed
    cases installed
  have hcalled : ((collect called (Sample.linkedAfter Sample.executes).1).map UrbSubmit.seq) = [7] := by
    decide +kernel
  have hreturns : (Sample.linkedAfter Sample.executes).2.client.Returns 0 Sample.keyboardUrb
      (.ok { seq := 7, status := 0, data := [0, 65, 0, 0, 0, 0, 0, 0] }) := by
    refine ⟨.ok { seq := 7, status := 0, data := [0, 65, 0, 0, 0, 0, 0, 0] }, ?_, by decide⟩
    decide +kernel
  obtain ⟨-, honce⟩ := urb_executed_once (.first Sample.linkedStarting) hcustom
    (Sample.runs_linkedAfter Sample.executes) hsame
  refine (honce ?_).2 0 Sample.keyboardUrb _ (Nat.zero_le _) hreturns rfl
  rw [hcalled]
  exact List.nodup_singleton 7

end FarBus.Core
