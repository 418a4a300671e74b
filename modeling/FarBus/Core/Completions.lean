/-
  Core/Completions.lean --- every submitted URB is completed once.

  A submit is answered in one of many places: by the reader where it refuses the URB,
  or by the spawned task, whichever way `complete_session_urb` goes.  Between its
  arrival and its answer it is in exactly one place, the reader's or a task's.  So over
  a run the submits a session received are, up to order, the completions it has put on
  its queue and the URBs still under way.
-/
import FarBus.Foundation.Conservation
import FarBus.Core.Authorization
import Mathlib.Data.Multiset.Basic

set_option autoImplicit false

namespace FarBus.Core

open FarBus.Foundation
open FarBus.Protocol

/-! ## The backends keep the sequence number -/

@[simp] theorem failedUrb_seq (seq : UInt32) : (failedUrb seq).seq = seq := rfl

@[simp] theorem completeUrb_seq (submit : UrbSubmit) : (completeUrb submit).seq = submit.seq := by
  unfold completeUrb
  split
  · unfold controlComplete
    split <;> rfl
  · unfold interruptComplete
    split <;> rfl
  · unfold bulkComplete
    split <;> rfl
  · rfl

@[simp] theorem hostRead_seq (libusb : Libusb) (submit : UrbSubmit) (size : Nat) :
    (hostRead libusb submit size).seq = submit.seq := by
  unfold hostRead
  split <;> rfl

@[simp] theorem hostWrite_seq (libusb : Libusb) (submit : UrbSubmit) :
    (hostWrite libusb submit).seq = submit.seq := by
  unfold hostWrite
  split <;> rfl

theorem control_seq {libusb : Libusb} {submit : UrbSubmit} {complete : UrbComplete}
    (h : control libusb submit = some complete) : complete.seq = submit.seq := by
  unfold control at h
  split at h
  · cases h
  · dsimp only at h
    split at h
    · cases h
      exact hostRead_seq libusb submit _
    · cases h
      exact hostWrite_seq libusb submit

@[simp] theorem stream_seq (libusb : Libusb) (submit : UrbSubmit) :
    (stream libusb submit).seq = submit.seq := by
  unfold stream
  split
  · exact hostRead_seq libusb submit _
  · exact hostWrite_seq libusb submit

/-- A device that was found and opened does the transfer the URB asks for. -/
theorem tryHost_cases {libusb : Libusb} {submit : UrbSubmit} {devices : List LocalDevice}
    {complete : UrbComplete} (h : tryHost libusb submit devices = some complete) :
    control libusb submit = some complete ∨ complete = stream libusb submit ∨
      complete = { seq := submit.seq, status := -32, data := [] } := by
  unfold tryHost at h
  obtain ⟨device, -, h⟩ := Option.bind_eq_some_iff.mp h
  obtain ⟨-, -, h⟩ := Option.bind_eq_some_iff.mp h
  obtain ⟨list, -, h⟩ := Option.bind_eq_some_iff.mp h
  obtain ⟨usbDev, -, h⟩ := Option.bind_eq_some_iff.mp h
  obtain ⟨-, -, h⟩ := Option.bind_eq_some_iff.mp h
  split at h
  · exact .inl h
  · exact .inr (.inl (Option.some.inj h).symm)
  · exact .inr (.inl (Option.some.inj h).symm)
  · exact .inr (.inr (Option.some.inj h).symm)

theorem tryHost_seq {libusb : Libusb} {submit : UrbSubmit} {devices : List LocalDevice}
    {complete : UrbComplete} (h : tryHost libusb submit devices = some complete) :
    complete.seq = submit.seq := by
  rcases tryHost_cases h with hcontrol | rfl | rfl
  · exact control_seq hcontrol
  · exact stream_seq libusb submit
  · rfl

@[simp] theorem completeHostOrEmulated_seq (libusb : Libusb) (submit : UrbSubmit)
    (devices : List LocalDevice) :
    (completeHostOrEmulated libusb submit devices).seq = submit.seq := by
  unfold completeHostOrEmulated
  split
  · rename_i hcomplete
    exact tryHost_seq hcomplete
  · split
    · exact completeUrb_seq submit
    · rfl

/-! ## What a session receives and puts on its queue -/

/-- The outgoing queue of a session. -/
def World.queue (w : World) (s : Nat) : List Message :=
  match w.sessions[s]? with
  | some session => session.queue
  | none => []

/-- The message that session `s` reads in a step. -/
def received (s : Nat) (t : Transition World Action) : List Message :=
  match t.act with
  | .recv s' msg => if s' = s then [msg] else []
  | _ => []

/-- The messages that join the queue of session `s` in a step. -/
def enqueued (s : Nat) (t : Transition World Action) : List Message :=
  (t.post.queue s).drop (t.pre.queue s).length

/-- The sequence numbers of the submits among the messages. -/
def submitSeqs (msgs : List Message) : List UInt32 :=
  msgs.flatMap fun
    | .urbSubmit urb => [urb.seq]
    | _ => []

def completeSeqs (msgs : List Message) : List UInt32 :=
  msgs.flatMap fun
    | .urbComplete complete => [complete.seq]
    | _ => []

/-- The submit that the reader is busy with. -/
def Pc.unanswered : Pc → List UInt32
  | .urbTokens urb _ | .urbLease urb _ _ | .urbPresence urb _ | .urbSlot urb _ _ => [urb.seq]
  | .replying msg => completeSeqs [msg]
  | _ => []

/-- The submit of a task that has not sent its completion. -/
def Task.unanswered (s : Nat) (task : Task) : List UInt32 :=
  if task.session = s ∧ task.pc ≠ .finished then [task.urb.seq] else []

/-- The submits of a session that are under way. -/
def World.unanswered (w : World) (s : Nat) : List UInt32 :=
  (match w.sessions[s]? with
    | some session => session.pc.unanswered
    | none => []) ++
  w.tasks.flatMap (Task.unanswered s)

/-- The step ends the writer of session `s` with the queue not drained: the connection
fails, or a message cannot be encoded. -/
def BreaksOff (s : Nat) (t : Transition World Action) : Prop :=
  t.act = .fail s ∨ t.act = .write s ∧
    ∃ session, t.post.sessions[s]? = some session ∧ session.pc = .closing

/-- A completer, if there is one, answers with the sequence number of the URB. -/
def ServerState.CompleterKeepsSeq (server : ServerState) : Prop :=
  ∀ custom, server.urbCompleter = some custom →
    ∀ urb complete, custom urb complete = true → complete.seq = urb.seq

/-! ## The URBs under way -/

/-- The completion a task has come to. -/
def TaskPc.result : TaskPc → Option UrbComplete
  | .recheck result | .release result | .sending result => some result
  | _ => none

section

variable {platform : Platform} {start w w' : World} {history later earlier : ServerHistory}
  {t : Transition World Action} {act : Action} {s : Nat}

theorem completer_run (run : World.Runs platform start history w) :
    w.server.urbCompleter = start.server.urbCompleter := by
  induction run with
  | nil => rfl
  | snoc run taken ih => exact (World.step_completer taken).trans ih

/-- What a task may complete a URB with. -/
inductive Resolution (custom : Option UrbCompleter) (urb : UrbSubmit) : UrbComplete → Prop where
  | failed : Resolution custom urb (failedUrb urb.seq)
  | custom {completer : UrbCompleter} {complete : UrbComplete}
      (installed : custom = some completer) (resolved : completer urb complete = true) :
      Resolution custom urb complete
  | host (libusb : Libusb) (devices : List LocalDevice) :
      Resolution custom urb (completeHostOrEmulated libusb urb devices)
  | emulated : Resolution custom urb (completeUrb urb)

theorem Task.advance_resolution {task : Task} {server : ServerState} {io : TaskIo} {pc : TaskPc}
    (hbefore : ∀ result, task.pc.result = some result →
      Resolution server.urbCompleter task.urb result)
    (taken : task.advance server io = some pc) :
    ∀ result, pc.result = some result → Resolution server.urbCompleter task.urb result := by
  intro result hresult
  unfold Task.advance at taken
  cases hpc : task.pc with
  | start =>
      simp only [hpc] at taken
      split at taken
      · split at taken <;> cases taken <;> cases hresult
      · cases taken
        cases hresult
        exact .failed
  | inCustom =>
      simp only [hpc] at taken
      split at taken
      · rename_i custom hcompleter
        split at taken
        · rename_i haccepted
          cases taken
          cases hresult
          exact .custom hcompleter haccepted
        · cases taken
      · cases taken
  | snapshot =>
      simp only [hpc] at taken
      split at taken <;> cases taken <;> cases hresult
      exact .failed
  | blocking devices =>
      simp only [hpc] at taken
      split at taken <;> cases taken <;> cases hresult
      exact .failed
  | inHost devices =>
      simp only [hpc] at taken
      cases taken
      cases hresult
      split
      · exact .failed
      · exact .host io.libusb devices
  | callEmulated =>
      simp only [hpc] at taken
      cases taken
      cases hresult
      exact .emulated
  | recheck before =>
      simp only [hpc] at taken
      cases taken
      cases hresult
      split
      · exact hbefore before (by rw [hpc]; rfl)
      · exact .failed
  | release before =>
      simp only [hpc] at taken
      cases taken
      exact hbefore result (by rw [hpc]; exact hresult)
  | callCustom | callHost | sending | finished =>
      simp only [hpc] at taken
      cases taken <;> cases hresult

/-- A task comes to nothing but these. -/
theorem task_resolution (hstart : World.Starting platform start)
    (run : World.Runs platform start history w) :
    ∀ (i : Nat) (task : Task), w.tasks[i]? = some task →
      ∀ result, task.pc.result = some result →
        Resolution start.server.urbCompleter task.urb result := by
  induction run with
  | nil =>
      intro i task mem
      cases hstart <;> cases mem
  | @snoc history pre post act run taken ih =>
      rw [← completer_run run] at ih ⊢
      intro i task mem
      rcases World.step_task taken mem with hbefore | ⟨before, io, pc, -, hbefore, hadvance, rfl⟩ |
        ⟨s, draw, session, urb, owner, presence, -, found, pc, rfl⟩
      · exact ih i task hbefore
      · have hresult := Task.advance_resolution (ih i before hbefore) hadvance
        exact hresult
      · intro result hresult
        cases hresult

theorem Resolution.seq {custom : Option UrbCompleter} {urb : UrbSubmit} {result : UrbComplete}
    (h : Resolution custom urb result)
    (hcustom : ∀ completer, custom = some completer →
      ∀ complete, completer urb complete = true → complete.seq = urb.seq) :
    result.seq = urb.seq := by
  cases h with
  | failed => rfl
  | custom installed resolved => exact hcustom _ installed _ resolved
  | host libusb devices => exact completeHostOrEmulated_seq libusb urb devices
  | emulated => exact completeUrb_seq urb

/-- Every task comes to a completion of its own URB. -/
theorem task_result_seq (hstart : World.Starting platform start)
    (hcustom : start.server.CompleterKeepsSeq) (run : World.Runs platform start history w) :
    ∀ (i : Nat) (task : Task), w.tasks[i]? = some task →
      ∀ result, task.pc.result = some result → result.seq = task.urb.seq := by
  intro i task mem result hresult
  exact (task_resolution hstart run i task mem result hresult).seq
    fun completer installed => hcustom completer installed task.urb

theorem World.finished_of_quiescent (h : w.quiescent s = true) {task : Task} (mem : task ∈ w.tasks)
    (hsession : task.session = s) : task.pc = .finished := by
  have htask := List.all_eq_true.mp h task mem
  simp only [hsession, bne_self_eq_false, Bool.false_or] at htask
  split at htask
  · rename_i hpc
    exact hpc
  · cases htask

/-- A session whose `try_join!` has returned has no task left, if its writer did not
break off. -/
theorem closed_quiescent (hstart : World.Starting platform start)
    (run : World.Runs platform start history w) (halive : ∀ t ∈ history, ¬ BreaksOff s t) :
    ∀ session, w.sessions[s]? = some session → session.pc = .closing ∨ session.pc = .ended →
      ∀ (i : Nat) (task : Task), w.tasks[i]? = some task → task.session = s →
        task.pc = .finished := by
  induction run with
  | nil =>
      intro session mem
      cases hstart <;> cases mem
  | @snoc history pre post act run taken ih =>
      have hpre := ih fun t ht => halive t (List.mem_cons_of_mem _ ht)
      intro session' mem' hclosed i task mem hsession
      rcases World.step_session taken mem' with ⟨-, -, rfl⟩ | ⟨session, found, -⟩
      · rcases hclosed with h | h <;> cases h
      · by_cases hwas : session.pc = .closing ∨ session.pc = .ended
        · have hfinished := hpre session found hwas
          rcases World.step_task taken mem with hbefore |
            ⟨before, io, pc, -, hbefore, hadvance, rfl⟩ |
            ⟨s', draw, session₁, urb, owner, presence, -, found₁, pc, rfl⟩
          · exact hfinished i task hbefore hsession
          · have hdone := hfinished i before hbefore hsession
            simp only [Task.advance, hdone] at hadvance
            cases hadvance
          · cases hsession
            rw [found, Option.some.injEq] at found₁
            rw [found₁, pc] at hwas
            rcases hwas with h | h <;> cases h
        · rw [not_or] at hwas
          have hjoined : act = .joined s ∧ pre.quiescent s = true := by
            rcases hclosed with hclosing | hended
            · rcases World.step_closes taken found hwas.1 mem' hclosing with rfl | rfl | hjoined
              · exact absurd (.inl rfl) (halive _ List.mem_cons_self)
              · exact absurd (.inr ⟨rfl, session', mem', hclosing⟩) (halive _ List.mem_cons_self)
              · exact hjoined
            · exact absurd (World.step_ends taken found hwas.2 mem' hended).2.1 hwas.1
          obtain ⟨rfl, hquiescent⟩ := hjoined
          rcases World.step_task taken mem with hbefore | ⟨before, io, pc, hact, -⟩ |
            ⟨s', draw, session₁, urb, owner, presence, hact, -⟩
          · exact World.finished_of_quiescent hquiescent (List.mem_of_getElem? hbefore) hsession
          · cases hact
          · cases hact

theorem Session.dispatch_unanswered (session : Session) (server : ServerState) (msg : Message) :
    (session.dispatch platform server msg).pc.unanswered = submitSeqs [msg] := by
  cases msg with
  | pairRequest req | urbUnlink unlink | urbSubmit urb =>
      simp only [Session.dispatch]
      split <;> rfl
  | _ => rfl

/-- A section of the reader hands its submit on: to the next section, to the queue, or to
a task. -/
theorem Session.AdvanceCases.unanswered {now : Instant} {draw : Draw} {server : ServerState}
    {session : Session} {outcome : Outcome}
    (entered : session.AdvanceCases platform now draw server s outcome) :
    session.pc.unanswered =
      completeSeqs (outcome.session.queue.drop session.queue.length) ++
        outcome.session.pc.unanswered ++ outcome.spawned.toList.flatMap (Task.unanswered s) := by
  cases entered with
  | replied pc room => simp [pc, Pc.unanswered]
  | urbSpawned pc free => simp [pc, Pc.unanswered, Task.unanswered, completeSeqs]
  | pinAccepted pc | pinRefused pc | issued pc | paired pc | tokenUnknown pc | tokenRefused pc
  | tokenAccepted pc | authorizedDevices pc | authorizedAttach pc | authorizedDetach pc | listed pc
  | attachUnknown pc | attached pc | detached pc | tokensExamined pc | urbLeased pc
  | urbRefused pc | urbAbsent pc | urbPresent pc | unlinked pc =>
      simp [pc, Pc.unanswered, completeSeqs, pairResponse, sendError, refusedUrb, unlinkResponse]

theorem Session.AdvanceCases.spawned_elsewhere {now : Instant} {draw : Draw}
    {server : ServerState} {index : Nat} {session : Session} {outcome : Outcome}
    (entered : session.AdvanceCases platform now draw server index outcome) (hindex : index ≠ s) :
    outcome.spawned.toList.flatMap (Task.unanswered s) = [] := by
  cases entered with
  | urbSpawned pc free => simp [Task.unanswered, hindex]
  | _ => rfl

/-- Only sending its completion finishes a task. -/
theorem Task.advance_unfinished {task : Task} {io : TaskIo} {pc : TaskPc} {server : ServerState}
    (taken : task.advance server io = some pc) (hpc : ∀ result, task.pc ≠ .sending result) :
    pc ≠ .finished := by
  intro hfinished
  subst hfinished
  unfold Task.advance at taken
  split at taken
  · split at taken
    · split at taken <;> cases taken
    · cases taken
  · cases taken
  · split at taken
    · split at taken <;> cases taken
    · cases taken
  · dsimp only at taken
    split at taken <;> cases taken
  · split at taken <;> cases taken
  · cases taken
  · cases taken
  · cases taken
  · cases taken
  · cases taken
  · rename_i result hsending
    exact hpc result hsending
  · cases taken

theorem Task.reach_queue {task : Task} {session reached : Session}
    (h : task.reach session = some reached) (hpc : ∀ result, task.pc ≠ .sending result) :
    reached.queue = session.queue := by
  rcases Task.reach_queue_cases h with hqueue | ⟨result, hsending, -, -⟩
  · exact hqueue
  · exact absurd hsending (hpc result)

/-- A task answers its submit in the step that finishes it, and in no other. -/
theorem Task.answers {task : Task} {session reached : Session} {io : TaskIo} {pc : TaskPc}
    {server : ServerState} (taken : task.advance server io = some pc)
    (reach : task.reach session = some reached)
    (hseq : ∀ result, task.pc.result = some result → result.seq = task.urb.seq)
    (hended : session.pc = .ended → task.pc = .finished) :
    task.unanswered task.session =
      completeSeqs (reached.queue.drop session.queue.length) ++
        ({ task with pc } : Task).unanswered task.session := by
  by_cases hsending : ∃ result, task.pc = .sending result
  · obtain ⟨result, hpc⟩ := hsending
    simp only [Task.advance, hpc] at taken
    cases taken
    simp only [Task.reach, hpc] at reach
    split at reach
    · rename_i hpcEnded
      rw [hended hpcEnded] at hpc
      cases hpc
    · split at reach
      · cases reach
        simp [Task.unanswered, hpc, completeSeqs, hseq result (by rw [hpc]; rfl)]
      · cases reach
  · rw [not_exists] at hsending
    have hpre : task.pc ≠ .finished := by
      intro hfinished
      simp only [Task.advance, hfinished] at taken
      cases taken
    rw [Task.reach_queue reach hsending, List.drop_length]
    simp [Task.unanswered, completeSeqs, hpre, Task.advance_unfinished taken hsending]

theorem World.unanswered_of_found {session : Session} (found : w.sessions[s]? = some session) :
    w.unanswered s = session.pc.unanswered ++ w.tasks.flatMap (Task.unanswered s) := by
  simp only [World.unanswered, found]

theorem World.queue_of_found {session : Session} (found : w.sessions[s]? = some session) :
    w.queue s = session.queue := by
  simp only [World.queue, found]

/-- What a step has to do with session `s`, as far as its submits go. -/
theorem conserved_step (taken : w.step platform act = some w')
    (halive : ¬ BreaksOff s ⟨w, act, w'⟩)
    (hseq : ∀ (i : Nat) (task : Task), w.tasks[i]? = some task →
      ∀ result, task.pc.result = some result → result.seq = task.urb.seq)
    (hclosed : ∀ session, w.sessions[s]? = some session →
      session.pc = .closing ∨ session.pc = .ended → ∀ (i : Nat) (task : Task),
        w.tasks[i]? = some task → task.session = s → task.pc = .finished) :
    (w.unanswered s ++ submitSeqs (received s ⟨w, act, w'⟩)).Perm
      (completeSeqs (enqueued s ⟨w, act, w'⟩) ++ w'.unanswered s) := by
  -- a step that does not touch the session
  have helsewhere : w'.sessions[s]? = w.sessions[s]? →
      (w.tasks.flatMap (Task.unanswered s)).Perm (w'.tasks.flatMap (Task.unanswered s)) →
      received s ⟨w, act, w'⟩ = [] →
      (w.unanswered s ++ submitSeqs (received s ⟨w, act, w'⟩)).Perm
        (completeSeqs (enqueued s ⟨w, act, w'⟩) ++ w'.unanswered s) := by
    intro hsession htasks hreceived
    rw [hreceived]
    simp only [enqueued, World.queue, World.unanswered, hsession, List.drop_length]
    simpa [submitSeqs, completeSeqs] using htasks.append_left _
  -- a step of its reader or its writer
  have hreader : ∀ {session session' : Session} (spawned : List Task),
      w.sessions[s]? = some session → w'.sessions[s]? = some session' →
      w'.tasks = w.tasks ++ spawned →
      session.pc.unanswered ++ submitSeqs (received s ⟨w, act, w'⟩) =
        completeSeqs (session'.queue.drop session.queue.length) ++ session'.pc.unanswered ++
          spawned.flatMap (Task.unanswered s) →
      (w.unanswered s ++ submitSeqs (received s ⟨w, act, w'⟩)).Perm
        (completeSeqs (enqueued s ⟨w, act, w'⟩) ++ w'.unanswered s) := by
    intro session session' spawned found found' htasks heq
    rw [World.unanswered_of_found found, World.unanswered_of_found found', enqueued,
      World.queue_of_found found, World.queue_of_found found', htasks, List.flatMap_append,
      List.perm_iff_count]
    intro seq
    have hcount := congrArg (List.count seq) heq
    simp only [List.count_append] at hcount ⊢
    omega
  -- the session of a step is `s` or another
  have hset : ∀ {index : Nat} {session session' : Session}, w.sessions[index]? = some session →
      index ≠ s → (w.sessions.set index session')[s]? = w.sessions[s]? :=
    fun _ hne => List.getElem?_set_ne hne
  have hself : ∀ {session session' : Session}, w.sessions[s]? = some session →
      (w.sessions.set s session')[s]? = some session' :=
    fun found => lookup_set_self found _
  cases World.step_cases taken with
  | tick | refreshHostDevices | renewExpiredPin => exact helsewhere rfl (.refl _) rfl
  | accept =>
      rcases Nat.lt_trichotomy s w.sessions.length with hlt | rfl | hgt
      · exact helsewhere (List.getElem?_append_left hlt) (.refl _) rfl
      · simp [World.unanswered, enqueued, World.queue, received, submitSeqs, completeSeqs,
          Pc.unanswered]
      · refine helsewhere ?_ (.refl _) rfl
        have hlength : (w.sessions ++ [({} : Session)]).length ≤ s := by
          rw [List.length_append]
          exact hgt
        rw [List.getElem?_eq_none hlength, List.getElem?_eq_none (Nat.le_of_lt hgt)]
  | @recv index session msg found pc =>
      by_cases hindex : index = s
      · subst hindex
        refine hreader [] found (hself found) (by simp [World.setSession]) ?_
        rw [Session.dispatch_unanswered, Session.dispatch_queue]
        simp [pc, received, Pc.unanswered, completeSeqs]
      · refine helsewhere (hset found hindex) (.refl _) ?_
        simp [received, hindex]
  | @eof index session found pc | @joined index session found pc | @release index session found pc =>
      by_cases hindex : index = s
      · subst hindex
        refine hreader [] found (hself found) (by simp [World.setSession]) ?_
        simp [pc, received, Pc.unanswered, completeSeqs, submitSeqs]
      · exact helsewhere (hset found hindex) (.refl _) rfl
  | @advance index session draw outcome found htaken =>
      by_cases hindex : index = s
      · subst hindex
        refine hreader _ found (hself found) rfl ?_
        rw [(Session.advance_cases htaken).unanswered]
        simp [received, submitSeqs]
      · refine helsewhere (hset found hindex) ?_ rfl
        rw [List.flatMap_append, (Session.advance_cases htaken).spawned_elsewhere hindex,
          List.append_nil]
  | @write index session msg queue pc found joining head kept =>
      by_cases hindex : index = s
      · subst hindex
        have hpc : pc = session.pc := by
          rcases kept with hkept | hclosing
          · exact hkept
          · exact absurd (.inr ⟨rfl, _, hself found, hclosing⟩) halive
        refine hreader [] found (hself found) (by simp [World.setSession]) ?_
        have hdropped : queue.drop session.queue.length = [] := by
          rw [head]
          exact List.drop_eq_nil_of_le (Nat.le_succ _)
        simp [received, submitSeqs, completeSeqs, hdropped, hpc]
      · exact helsewhere (hset found hindex) (.refl _) rfl
  | @fail index session found joining =>
      by_cases hindex : index = s
      · subst hindex
        exact absurd (.inl rfl) halive
      · exact helsewhere (hset found hindex) (.refl _) rfl
  | @task i task session reached io pc found home htaken reach =>
      have htasks := perm_flatMap_set (Task.unanswered s) found { task with pc }
      by_cases hindex : task.session = s
      · subst hindex
        obtain ⟨-, -, hpc⟩ := Task.reach_control reach
        have hanswer := Task.answers htaken reach (hseq i task found) fun hended =>
          hclosed session home (.inr hended) i task found rfl
        rw [World.unanswered_of_found home, World.unanswered_of_found (hself home), enqueued,
          World.queue_of_found home, World.queue_of_found (hself home), hpc, List.perm_iff_count]
        intro seq
        have hcount := congrArg (List.count seq) hanswer
        have hcounts := htasks.count_eq seq
        simp only [List.count_append, received, submitSeqs, List.flatMap_nil, List.count_nil]
          at hcount hcounts ⊢
        omega
      · refine helsewhere (hset home hindex) ?_ rfl
        simpa [Task.unanswered, hindex] using htasks.symm

/-- The reader is waiting for a message, or has returned. -/
def Pc.idle : Pc → Bool
  | .reading | .draining | .closing | .ended => true
  | _ => false

theorem Pc.unanswered_of_idle {pc : Pc} (h : pc.idle = true) : pc.unanswered = [] := by
  cases pc <;> first | rfl | cases h

/-- All that the session was asked is dealt with: its tasks have finished, and its reader
is idle. -/
def World.Settled (w : World) (s : Nat) : Prop :=
  (∀ task ∈ w.tasks, task.session = s → task.pc = .finished) ∧
    ∀ session ∈ w.sessions[s]?, session.pc.idle = true

instance (w : World) (s : Nat) : Decidable (w.Settled s) := inferInstanceAs (Decidable (_ ∧ _))

theorem World.Settled.unanswered (h : w.Settled s) : w.unanswered s = [] := by
  have htasks : w.tasks.flatMap (Task.unanswered s) = [] := by
    rw [List.flatMap_eq_nil_iff]
    intro task mem
    unfold Task.unanswered
    rw [if_neg]
    intro hunfinished
    exact hunfinished.2 (h.1 task mem hunfinished.1)
  unfold World.unanswered
  rw [htasks]
  cases hsession : w.sessions[s]? with
  | none => rfl
  | some session => simp only [Pc.unanswered_of_idle (h.2 session hsession), List.append_nil]

/-- Exactly one completion for each submit.  As long as the writer of a session does not
break off, the submits it has received are, up to order, those it has answered with a
completion and those still under way; once all its tasks have finished and its reader is
idle, the two are the same multiset. -/
theorem one_completion_per_submit (hstart : World.Starting platform start)
    (hcustom : start.server.CompleterKeepsSeq) (run : World.Runs platform start history w)
    (halive : ∀ t ∈ history, ¬ BreaksOff s t) :
    (submitSeqs (collect (received s) history)).Perm
      (completeSeqs (collect (enqueued s) history) ++ w.unanswered s) ∧
    (w.Settled s → (completeSeqs (collect (enqueued s) history) : Multiset UInt32) =
      submitSeqs (collect (received s) history)) := by
  have hconserved : (submitSeqs (collect (received s) history)).Perm
      (completeSeqs (collect (enqueued s) history) ++ w.unanswered s) := by
    have hrun := run.conserved (fun t => submitSeqs (received s t))
      (fun t => completeSeqs (enqueued s t)) (fun w => w.unanswered s) ?_
    · have hnone : start.unanswered s = [] := by
        cases hstart <;> rfl
      rw [hnone, List.nil_append] at hrun
      unfold submitSeqs completeSeqs at hrun ⊢
      rw [collect_flatMap, collect_flatMap]
      exact hrun
    · intro later t earlier hcut runBefore taken
      have haliveBefore : ∀ u ∈ earlier, ¬ BreaksOff s u := by
        intro u hu
        apply halive
        rw [hcut]
        exact List.mem_append_right _ (List.mem_cons_of_mem _ hu)
      have haliveHere : ¬ BreaksOff s t := by
        apply halive
        rw [hcut]
        exact List.mem_append_right _ List.mem_cons_self
      exact conserved_step taken haliveHere (task_result_seq hstart hcustom runBefore)
        (closed_quiescent hstart runBefore haliveBefore)
  refine ⟨hconserved, ?_⟩
  intro hsettled
  rw [hsettled.unanswered, List.append_nil] at hconserved
  exact Multiset.coe_eq_coe.mpr hconserved.symm

end

namespace Sample

/-- One URB is refused for want of a principal; another goes through. -/
def answered : List Action :=
  [.accept, .recv 0 (.urbSubmit { urb with seq := 3 }), .advance 0 (draw 0)] ++
    (pair 0 peer 9).tail ++ attach 0 9 ++ submit 0 ++ [.advance 0 (draw 0)] ++
    List.replicate 6 (.task 0 io)

end Sample

instance (s : Nat) (act : Action) : Decidable (act = .fail s) :=
  match act with
  | .fail s' => decidable_of_iff (s' = s) (by rw [Action.fail.injEq])
  | .tick _ | .refreshHostDevices _ | .renewExpiredPin _ | .accept | .recv _ _ | .eof _
  | .advance _ _ | .write _ | .joined _ | .release _ | .task _ _ => .isFalse Action.noConfusion

instance (s : Nat) (act : Action) : Decidable (act = .write s) :=
  match act with
  | .write s' => decidable_of_iff (s' = s) (by rw [Action.write.injEq])
  | .tick _ | .refreshHostDevices _ | .renewExpiredPin _ | .accept | .recv _ _ | .eof _
  | .advance _ _ | .fail _ | .joined _ | .release _ | .task _ _ => .isFalse Action.noConfusion

theorem sample_one_completion_per_submit :
    (Sample.after Sample.answered).2.Settled 0 ∧
    submitSeqs (collect (received 0) (Sample.after Sample.answered).1) = [3, 7] ∧
    (completeSeqs (collect (enqueued 0) (Sample.after Sample.answered).1) : Multiset UInt32) =
      ([3, 7] : List UInt32) := by
  have hkeeps : Sample.start.server.CompleterKeepsSeq := by
    intro custom hcompleter
    cases hcompleter
  have hsettled : (Sample.after Sample.answered).2.Settled 0 := by decide +kernel
  have hsubmits : submitSeqs (collect (received 0) (Sample.after Sample.answered).1) = [3, 7] := by
    decide +kernel
  have halive : ∀ t ∈ (Sample.after Sample.answered).1, ¬ BreaksOff 0 t := by
    have hacts : ∀ t ∈ (Sample.after Sample.answered).1, t.act ≠ .fail 0 ∧ t.act ≠ .write 0 := by
      decide +kernel
    intro t ht hbreaks
    rcases hbreaks with hfail | ⟨hwrite, -⟩
    · exact (hacts t ht).1 hfail
    · exact (hacts t ht).2 hwrite
  have hcompletes := (one_completion_per_submit Sample.starting hkeeps
    (Sample.runs Sample.answered) halive).2 hsettled
  rw [hsubmits] at hcompletes
  exact ⟨hsettled, hsubmits, hcompletes⟩

end FarBus.Core
