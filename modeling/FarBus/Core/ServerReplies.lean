/-
  Core/ServerReplies.lean --- what `serve_session` says to each message it reads.

  The reader takes one message after the other.  To a control message it puts exactly
  one reply on the queue before it reads on, and which kinds of reply are possible is
  fixed by the message; to an unlink it says one unlink reply, and to a submit at most
  a refusal.  The tasks share the queue, and put completions on it and nothing else.
-/
import FarBus.Foundation.Exchange
import FarBus.Core.Completions

set_option autoImplicit false

namespace FarBus.Core

open FarBus.Foundation
open FarBus.Protocol

/-! ## Questions and answers -/

/-- Everything but a URB and an unlink. -/
def isControlRequest : Message → Bool
  | .urbSubmit _ | .urbUnlink _ => false
  | _ => true

/-- Everything but an answer to one of these. -/
def isControlReply : Message → Bool
  | .urbComplete _ | .urbUnlinked _ => false
  | _ => true

/-- The replies to a control message. -/
def AnswersTo : Message → Message → Prop
  | .hello _, .hello _ => True
  | .pairRequest _, .pairResponse _ => True
  | .deviceListRequest _, .deviceList _ => True
  | .attachRequest req, .attachResponse response => response.deviceId = req.deviceId
  | .detachRequest req, .detach device => device = req.deviceId
  | .hello _, _ | .pairRequest _, _ => False
  | _, .error _ _ => True
  | _, _ => False

/-- All that the reader says to a message. -/
def Exchanged (msg : Message) (said : List Message) : Prop :=
  match msg with
  | .urbSubmit urb =>
      said = [] ∨ ∃ status, said = [.urbComplete { seq := urb.seq, status, data := [] }]
  | .urbUnlink unlink => ∃ status, said = [.urbUnlinked { seq := unlink.seq, status }]
  | msg => ∃ answer, said = [answer] ∧ AnswersTo msg answer

theorem exchanged_control {msg : Message} {said : List Message} (h : isControlRequest msg = true) :
    Exchanged msg said ↔ ∃ answer, said = [answer] ∧ AnswersTo msg answer := by
  cases msg with
  | urbSubmit | urbUnlink => cases h
  | _ => rfl

theorem AnswersTo.isControlReply {msg answer : Message} (h : AnswersTo msg answer) :
    isControlReply answer = true := by
  cases answer with
  | urbComplete | urbUnlinked => cases msg <;> cases h
  | _ => rfl

theorem exchanged_matches :
    Exchanges.Matches Exchanged isControlRequest isControlReply where
  one := by
    intro msg said h hcontrol
    obtain ⟨answer, rfl, hanswer⟩ := (exchanged_control hcontrol).mp h
    exact ⟨answer, rfl, hanswer.isControlReply⟩
  none := by
    intro msg said h hcontrol
    cases msg with
    | urbSubmit urb => rcases h with rfl | ⟨status, rfl⟩ <;> rfl
    | urbUnlink unlink =>
        obtain ⟨status, rfl⟩ := h
        rfl
    | _ => cases hcontrol

/-! ## The reader's exchanges -/

/-- What the reader puts on the queue in a step. -/
def readerSaid (s : Nat) (t : Transition World Action) : List Message :=
  match t.act with
  | .advance s' _ => if s' = s then enqueued s t else []
  | _ => []

/-- The messages a session has read, each with what its reader said until it read on. -/
def exchanges (s : Nat) : ServerHistory → Exchanges Message Message
  | [] => []
  | t :: earlier => ((exchanges s earlier).say (readerSaid s t)).ask (received s t)

/-- The message that the reader is busy with at a suspension point. -/
def Pc.Busy (current : Option Message) : Pc → Prop
  | .reading | .draining => current = none
  | .closing | .ended => True
  | .replying msg => ∃ req, current = some req ∧ Exchanged req [msg]
  | .pairing req | .issuing req | .paired req _ => current = some (.pairRequest req)
  | .authorizing req | .authorized req _ => current = some req.message
  | .listing => ∃ req, current = some (.deviceListRequest req)
  | .attaching device _ => ∃ req, req.deviceId = device ∧ current = some (.attachRequest req)
  | .detaching device _ => ∃ req, req.deviceId = device ∧ current = some (.detachRequest req)
  | .urbTokens urb _ | .urbLease urb _ _ | .urbPresence urb _ | .urbSlot urb _ _ =>
      current = some (.urbSubmit urb)
  | .unlinkLease unlink _ => current = some (.urbUnlink unlink)

section

variable {platform : Platform} {start w w' : World} {history : ServerHistory} {act : Action}
  {s : Nat} {session : Session} {server : ServerState} {current : Option Message}
  {log : Exchanges Message Message}

theorem Session.dispatch_busy (session : Session) (server : ServerState) (msg : Message) :
    (session.dispatch platform server msg).pc.Busy (some msg) := by
  cases msg with
  | pairRequest req =>
      simp only [Session.dispatch]
      split
      · rfl
      · exact ⟨_, rfl, _, rfl, trivial⟩
  | urbSubmit urb =>
      simp only [Session.dispatch]
      split
      · exact ⟨_, rfl, .inr ⟨-13, rfl⟩⟩
      · rfl
  | urbUnlink unlink =>
      simp only [Session.dispatch]
      split
      · exact ⟨_, rfl, -13, rfl⟩
      · rfl
  | deviceListRequest req | attachRequest req | detachRequest req => rfl
  | hello | error | detach | deviceList | pairResponse | attachResponse | urbComplete
  | urbUnlinked => exact ⟨_, rfl, _, rfl, trivial⟩

/-- A token is asked for by requests that may be refused. -/
theorem TokenRequest.exchanged_error (req : TokenRequest) (code : ErrorCode) (detail : String) :
    Exchanged req.message [.error code detail] := by
  cases req <;> exact ⟨_, rfl, trivial⟩

/-- A section of the reader goes on with its message, or ends the exchange with what it
puts on the queue. -/
theorem Session.AdvanceCases.busy {now : Instant} {draw : Draw} {outcome : Outcome}
    (entered : session.AdvanceCases platform now draw server s outcome)
    (turn : Exchanges.InTurn Exchanged log current) (busy : session.pc.Busy current) :
    ∃ current', Exchanges.InTurn Exchanged
        (log.say (outcome.session.queue.drop session.queue.length)) current' ∧
      outcome.session.pc.Busy current' := by
  cases entered with
  | replied pc room =>
      rw [pc] at busy
      obtain ⟨req, rfl, hexchanged⟩ := busy
      rw [List.drop_left]
      exact ⟨none, turn.say hexchanged, rfl⟩
  | urbSpawned pc free =>
      rw [pc] at busy
      cases busy
      rw [List.drop_length]
      exact ⟨none, turn.say (.inl rfl), rfl⟩
  | pinRefused pc | paired pc =>
      rw [pc] at busy
      cases busy
      rw [List.drop_length, Exchanges.say_nil]
      exact ⟨_, turn, _, rfl, _, rfl, trivial⟩
  | tokenUnknown pc | tokenRefused pc =>
      rw [pc] at busy
      cases busy
      rw [List.drop_length, Exchanges.say_nil]
      exact ⟨_, turn, _, rfl, TokenRequest.exchanged_error _ _ _⟩
  | authorizedDevices pc =>
      rw [pc] at busy
      cases busy
      rw [List.drop_length, Exchanges.say_nil]
      exact ⟨_, turn, _, rfl⟩
  | authorizedAttach pc | authorizedDetach pc =>
      rw [pc] at busy
      cases busy
      rw [List.drop_length, Exchanges.say_nil]
      exact ⟨_, turn, _, rfl, rfl⟩
  | listed pc =>
      rw [pc] at busy
      obtain ⟨req, rfl⟩ := busy
      rw [List.drop_length, Exchanges.say_nil]
      exact ⟨_, turn, _, rfl, _, rfl, trivial⟩
  | attachUnknown pc =>
      rw [pc] at busy
      obtain ⟨req, -, rfl⟩ := busy
      rw [List.drop_length, Exchanges.say_nil]
      exact ⟨_, turn, _, rfl, _, rfl, trivial⟩
  | attached pc | detached pc =>
      rw [pc] at busy
      obtain ⟨req, hdevice, rfl⟩ := busy
      rw [List.drop_length, Exchanges.say_nil]
      exact ⟨_, turn, _, rfl, _, rfl, hdevice.symm⟩
  | urbRefused pc | urbAbsent pc =>
      rw [pc] at busy
      cases busy
      rw [List.drop_length, Exchanges.say_nil]
      exact ⟨_, turn, _, rfl, .inr ⟨_, rfl⟩⟩
  | unlinked pc =>
      rw [pc] at busy
      cases busy
      rw [List.drop_length, Exchanges.say_nil]
      exact ⟨_, turn, _, rfl, _, rfl⟩
  | pinAccepted pc | issued pc | tokenAccepted pc | tokensExamined pc | urbLeased pc
  | urbPresent pc =>
      rw [pc] at busy
      rw [List.drop_length, Exchanges.say_nil]
      exact ⟨_, turn, busy⟩

/-! ## Runs of a session -/

theorem exchanges_quiet {t : Transition World Action} (hreceived : received s t = [])
    (hsaid : readerSaid s t = []) : exchanges s (t :: history) = exchanges s history := by
  rw [exchanges, hreceived, hsaid, Exchanges.say_nil, Exchanges.ask_nil]

/-- Who puts messages on the queue of session `s` in a step. -/
inductive Enqueues (w : World) (s : Nat) : Action → List Message → Prop where
  | nobody {act : Action} : Enqueues w s act []
  | reader {draw : Draw} {session : Session} {msg : Message}
      (found : w.sessions[s]? = some session) (pc : session.pc = .replying msg) :
      Enqueues w s (.advance s draw) [msg]
  | task {i : Nat} {io : TaskIo} {task : Task} {result : UrbComplete}
      (found : w.tasks[i]? = some task) (home : task.session = s) (pc : task.pc = .sending result) :
      Enqueues w s (.task i io) [.urbComplete result]

/-- Only the reader and the tasks put messages on the queue, one at a time. -/
theorem enqueued_cases (taken : w.step platform act = some w') :
    Enqueues w s act (enqueued s ⟨w, act, w'⟩) := by
  have hnobody : w'.queue s = [] → Enqueues w s act (enqueued s ⟨w, act, w'⟩) := by
    intro hempty
    rw [enqueued, hempty, List.drop_nil]
    exact .nobody
  cases found' : w'.sessions[s]? with
  | none => exact hnobody (by rw [World.queue, found'])
  | some session' =>
      rcases World.step_session taken found' with ⟨-, -, rfl⟩ | ⟨session, found, -⟩
      · exact hnobody (World.queue_of_found found')
      rw [enqueued, World.queue_of_found found, World.queue_of_found found']
      cases World.step_queue_cases taken found found' with
      | kept hqueue =>
          rw [hqueue, List.drop_length]
          exact .nobody
      | written msg hact head =>
          have hshorter : session'.queue.length ≤ session.queue.length := by
            rw [head]
            exact Nat.le_succ _
          rw [List.drop_eq_nil_of_le hshorter]
          exact .nobody
      | replied draw msg hact pc room hqueue =>
          rw [hqueue, List.drop_left, hact]
          exact .reader found pc
      | sent i io task result hact hfound home pc room hqueue =>
          rw [hqueue, List.drop_left, hact]
          exact .task hfound home pc

/-- The tasks put completions on the queue, the reader everything else. -/
theorem enqueued_control (taken : w.step platform act = some w') :
    (enqueued s ⟨w, act, w'⟩).filter isControlReply =
      (readerSaid s ⟨w, act, w'⟩).filter isControlReply := by
  by_cases hact : ∃ draw, act = .advance s draw
  · obtain ⟨draw, rfl⟩ := hact
    simp only [readerSaid, if_true]
  · have hsaid : readerSaid s ⟨w, act, w'⟩ = [] := by
      cases act with
      | advance index draw =>
          simp only [readerSaid]
          exact if_neg fun hindex => hact ⟨draw, by rw [hindex]⟩
      | _ => rfl
    have hcases := enqueued_cases (s := s) taken
    rw [hsaid]
    generalize enqueued s ⟨w, act, w'⟩ = msgs at hcases ⊢
    cases hcases with
    | nobody => rfl
    | reader found pc => exact absurd ⟨_, rfl⟩ hact
    | task found home pc => rfl

/-- What joins the queue joins it at its end, and only the writer takes from it. -/
theorem queue_step (taken : w.step platform act = some w') (hact : act ≠ .write s)
    {session' : Session} (found : w.sessions[s]? = some session)
    (found' : w'.sessions[s]? = some session') :
    session'.queue = session.queue ++ enqueued s ⟨w, act, w'⟩ := by
  have hgrown : session.queue <+: session'.queue → session'.queue =
      session.queue ++ enqueued s ⟨w, act, w'⟩ := by
    intro hgrown
    rw [enqueued, World.queue_of_found found, World.queue_of_found found']
    exact (List.prefix_iff_eq_append.mp hgrown).symm
  apply hgrown
  cases World.step_queue_cases taken found found' with
  | kept hqueue => exact ⟨[], by rw [List.append_nil, hqueue]⟩
  | written msg hwrite head => exact absurd hwrite hact
  | replied draw msg hadvance pc room hqueue =>
      rw [hqueue]
      exact List.prefix_append _ _
  | sent i io task result htask hfound home pc room hqueue =>
      rw [hqueue]
      exact List.prefix_append _ _

/-- A message on the queue was there before, or joins it in the step. -/
theorem mem_queue_step (taken : w.step platform act = some w') {msg : Message}
    (mem : msg ∈ w'.queue s) : msg ∈ w.queue s ∨ msg ∈ enqueued s ⟨w, act, w'⟩ := by
  cases hfound : w.sessions[s]? with
  | none =>
      have hempty : w.queue s = [] := by rw [World.queue, hfound]
      rw [enqueued, hempty]
      exact .inr mem
  | some session =>
      obtain ⟨session', found'⟩ := World.step_session_stays taken hfound
      rw [World.queue_of_found found'] at mem
      rw [World.queue_of_found hfound]
      by_cases hact : act = .write s
      · subst hact
        cases World.step_queue_cases taken hfound found' with
        | kept hqueue =>
            rw [hqueue] at mem
            exact .inl mem
        | written head hwrite hhead =>
            rw [hhead]
            exact .inl (List.mem_cons_of_mem _ mem)
        | replied draw reply hadvance => cases hadvance
        | sent i io task result htask => cases htask
      · rw [queue_step taken hact hfound found', List.mem_append] at mem
        exact mem

theorem Session.joining_of_pc {session' : Session} (h : session'.pc = session.pc) :
    session'.joining = session.joining := by
  rw [Session.joining, Session.joining, h]

/-- A session whose `try_join!` has returned does not go back. -/
theorem joining_step (taken : w.step platform act = some w') {session' : Session}
    (found : w.sessions[s]? = some session) (found' : w'.sessions[s]? = some session')
    (joining : session'.joining = true) : session.joining = true := by
  cases World.step_session_cases taken found found' with
  | untouched => exact joining
  | recv msg pc | eof pc | joined pc => rw [Session.joining, pc]
  | fail hjoining | write hjoining => exact hjoining
  | release pc => cases joining
  | advance entered => cases entered <;> simp only [Session.joining, *]
  | task hfound home reach =>
      rwa [Session.joining_of_pc (Task.reach_control reach).2.2] at joining

theorem readerSaid_advance {draw : Draw} {outcome : Outcome}
    (found : w.sessions[s]? = some session) :
    readerSaid s ⟨w, .advance s draw, { (w.setSession s outcome.session) with
      server := outcome.server, tasks := w.tasks ++ outcome.spawned.toList }⟩ =
        outcome.session.queue.drop session.queue.length := by
  have found' : (w.sessions.set s outcome.session)[s]? = some outcome.session :=
    lookup_set_self found _
  have hpost : World.queue { (w.setSession s outcome.session) with
      server := outcome.server, tasks := w.tasks ++ outcome.spawned.toList } s =
        outcome.session.queue := World.queue_of_found found'
  simp only [readerSaid, enqueued, World.queue_of_found found, hpost, if_true]

/-- What session `s` has read so far, and where its reader stands with it. -/
structure Serving (s : Nat) (log : Exchanges Message Message) (w : World) : Prop where
  unborn : w.sessions[s]? = none → log = []
  turn : ∀ session, w.sessions[s]? = some session →
    ∃ current, Exchanges.InTurn Exchanged log current ∧ session.pc.Busy current

theorem Serving.kept (h : Serving s log w) (hsession : w'.sessions[s]? = w.sessions[s]?) :
    Serving s log w' := ⟨by rw [hsession]; exact h.unborn, by rw [hsession]; exact h.turn⟩

/-- One step keeps the exchanges in turn. -/
theorem Serving.step (h : Serving s (exchanges s history) w)
    (taken : w.step platform act = some w') :
    Serving s (exchanges s (⟨w, act, w'⟩ :: history)) w' := by
  -- the reader keeps its message, or leaves
  have hset : ∀ {i : Nat} {old new : Session}, w.sessions[i]? = some old →
      w'.sessions = w.sessions.set i new → received s ⟨w, act, w'⟩ = [] →
      readerSaid s ⟨w, act, w'⟩ = [] →
      (∀ current, old.pc.Busy current → new.pc.Busy current) →
      Serving s (exchanges s (⟨w, act, w'⟩ :: history)) w' := by
    intro i old new found hsessions hreceived hsaid hbusy
    rw [exchanges_quiet hreceived hsaid]
    refine ⟨?_, ?_⟩
    · intro hnone
      apply h.unborn
      rw [hsessions, List.getElem?_set] at hnone
      split at hnone
      · split at hnone
        · cases hnone
        · rename_i hi hlt
          rw [← hi]
          exact List.getElem?_eq_none (Nat.le_of_not_lt hlt)
      · exact hnone
    · intro session found'
      rw [hsessions] at found'
      rcases lookup_set_cases found found' with ⟨-, hold, rfl⟩ | ⟨-, hold⟩
      · obtain ⟨current, hturn, hcurrent⟩ := h.turn old hold
        exact ⟨current, hturn, hbusy current hcurrent⟩
      · exact h.turn session hold
  have helsewhere : w'.sessions[s]? = w.sessions[s]? → received s ⟨w, act, w'⟩ = [] →
      readerSaid s ⟨w, act, w'⟩ = [] →
      Serving s (exchanges s (⟨w, act, w'⟩ :: history)) w' := by
    intro hsession hreceived hsaid
    rw [exchanges_quiet hreceived hsaid]
    exact h.kept hsession
  cases World.step_cases taken with
  | tick | refreshHostDevices | renewExpiredPin => exact helsewhere rfl rfl rfl
  | accept =>
      rw [exchanges_quiet rfl rfl]
      refine ⟨?_, ?_⟩
      · intro hnone
        apply h.unborn
        rw [List.getElem?_eq_none_iff, List.length_append] at hnone
        exact List.getElem?_eq_none (by omega)
      · intro session found'
        rcases World.step_session taken found' with ⟨-, hnone, rfl⟩ | ⟨before, hbefore, -⟩
        · rw [h.unborn hnone]
          exact ⟨none, .closed (fun _ mem => absurd mem List.not_mem_nil), rfl⟩
        · rw [List.getElem?_append_left (List.getElem?_eq_some_iff.mp hbefore).1] at found'
          exact h.turn session found'
  | @recv index session msg found pc =>
      by_cases hindex : index = s
      · subst hindex
        obtain ⟨current, hturn, hcurrent⟩ := h.turn session found
        rw [pc] at hcurrent
        subst hcurrent
        have hreceived : received index ⟨w, .recv index msg,
            w.setSession index (session.dispatch platform w.server msg)⟩ = [msg] := by
          simp [received]
        have found' : (w.sessions.set index (session.dispatch platform w.server msg))[index]? =
            some (session.dispatch platform w.server msg) :=
          lookup_set_self found _
        have hsaid : readerSaid index ⟨w, .recv index msg,
            w.setSession index (session.dispatch platform w.server msg)⟩ = [] := rfl
        rw [exchanges, hreceived, hsaid, Exchanges.say_nil]
        refine ⟨?_, ?_⟩
        · intro hnone
          exact absurd (found'.symm.trans hnone) (Option.some_ne_none _)
        · intro session' mem'
          obtain rfl := Option.some.inj (found'.symm.trans mem')
          exact ⟨some msg, hturn.ask msg, Session.dispatch_busy session w.server msg⟩
      · refine helsewhere (List.getElem?_set_ne hindex) ?_ rfl
        simp [received, hindex]
  | eof found pc =>
      refine hset found rfl rfl rfl ?_
      intro current hcurrent
      rw [pc] at hcurrent
      exact hcurrent
  | fail found | joined found | release found =>
      exact hset found rfl rfl rfl fun _ _ => trivial
  | @write index session msg queue pc found joining head kept =>
      refine hset found rfl rfl rfl ?_
      rcases kept with rfl | rfl
      · exact fun _ hcurrent => hcurrent
      · exact fun _ _ => trivial
  | @advance index session draw outcome found htaken =>
      by_cases hindex : index = s
      · subst hindex
        obtain ⟨current, hturn, hcurrent⟩ := h.turn session found
        obtain ⟨current', hturn', hcurrent'⟩ :=
          (Session.advance_cases htaken).busy hturn hcurrent
        have found' : (w.sessions.set index outcome.session)[index]? = some outcome.session :=
          lookup_set_self found _
        refine ⟨?_, ?_⟩
        · intro hnone
          exact absurd (found'.symm.trans hnone) (Option.some_ne_none _)
        · intro session' mem'
          obtain rfl := Option.some.inj (found'.symm.trans mem')
          rw [exchanges, readerSaid_advance found]
          exact ⟨current', by simpa only [received, Exchanges.ask_nil] using hturn', hcurrent'⟩
      · refine helsewhere (List.getElem?_set_ne hindex) rfl ?_
        simp [readerSaid, hindex]
  | @task i task session reached io pc found home htaken reach =>
      refine hset home rfl rfl rfl ?_
      obtain ⟨-, -, hpc⟩ := Task.reach_control reach
      intro current hcurrent
      rw [hpc]
      exact hcurrent

/-- In any run, a session's exchanges are in turn. -/
theorem serving_run (run : World.Runs platform start history w) (hstart : Serving s [] start) :
    Serving s (exchanges s history) w :=
  run.history_invariant (fun history w => Serving s (exchanges s history) w) hstart
    fun _ _ _ _ _ h taken => h.step taken

/-- A reader that has read nothing says nothing. -/
theorem Serving.readerSaid_nil (h : Serving s [] w) (taken : w.step platform act = some w') :
    readerSaid s ⟨w, act, w'⟩ = [] := by
  cases World.step_cases taken with
  | @advance index session draw outcome found htaken =>
      by_cases hindex : index = s
      · subst hindex
        rw [readerSaid_advance found]
        obtain ⟨current, hturn, hbusy⟩ := h.turn session found
        cases Session.advance_cases htaken with
        | replied pc room =>
            rw [pc] at hbusy
            obtain ⟨req, rfl, -⟩ := hbusy
            exact absurd rfl hturn.ne_nil
        | _ => exact List.drop_length
      · simp only [readerSaid, if_neg hindex]
  | tick | refreshHostDevices | renewExpiredPin | accept | recv | eof | write | fail | joined
  | release | task => rfl

/-- The control replies that join the queue of a session are those its reader says. -/
theorem said_control (run : World.Runs platform start history w) (hstart : Serving s [] start) :
    (collect (enqueued s) history).filter isControlReply =
      (exchanges s history).said.filter isControlReply := by
  induction run with
  | nil => rfl
  | @snoc history pre post act run taken ih =>
      have hnone : exchanges s history = [] → readerSaid s ⟨pre, act, post⟩ = [] := by
        intro hempty
        have hserving := serving_run run hstart
        rw [hempty] at hserving
        exact hserving.readerSaid_nil taken
      rw [collect_cons, List.filter_append, ih, enqueued_control taken, exchanges,
        Exchanges.said_ask, Exchanges.said_say hnone, List.filter_append]

end

end FarBus.Core
