/-
  Core/Backpressure.lean --- how many URBs a session of `serve_session` has under way.

  The reader takes one of `MAX_IN_FLIGHT_URBS` slots for every URB it admits.  The task
  drops its permit before it sends the completion, so a completion that waits for room in
  the outgoing queue holds no slot any more.  The URBs under way are those with a permit
  and those waiting: there are at most `MAX_IN_FLIGHT_URBS` of them for as long as the
  reader takes a slot only when more slots are free than completions wait.
-/
import FarBus.Core.Completions
import FarBus.Core.SessionUrbs

set_option autoImplicit false

namespace FarBus.Core

open FarBus.Foundation
open FarBus.Protocol

/-- The task belongs to session `s`, and the outgoing queue has not taken its completion. -/
def Task.pending (s : Nat) (self : Task) : Bool :=
  self.session = s && match self.pc with
    | .finished => false
    | _ => true

/-- The task has dropped its permit, and its completion waits for the queue. -/
def Task.waiting (s : Nat) (self : Task) : Bool :=
  self.session = s && match self.pc with
    | .sending _ => true
    | _ => false

def World.pending (w : World) (s : Nat) : Nat := w.tasks.countP (Task.pending s)

def World.waiting (w : World) (s : Nat) : Nat := w.tasks.countP (Task.waiting s)

/-- The bounds on what session `s` holds: URBs under way, and these with all that is in
the outgoing queue. -/
structure World.Bounded (w : World) (s : Nat) : Prop where
  inFlight : w.pending s ≤ MAX_IN_FLIGHT_URBS
  held : w.pending s + (w.queue s).length ≤ MAX_IN_FLIGHT_URBS + OUT_QUEUE

/-- In `t`, the reader of session `s`, in state `session`, takes a slot and spawns a task. -/
structure TakesSlot (s : Nat) (session : Session) (t : Transition World Action) : Prop where
  act : ∃ draw, t.act = .advance s draw
  found : t.pre.sessions[s]? = some session
  pc : ∃ urb owner presence, session.pc = .urbSlot urb owner presence

/-- A slot is taken in `t` only if more slots are free than completions wait. -/
def SlotToSpare (s : Nat) (t : Transition World Action) : Prop :=
  ∀ session, TakesSlot s session t → t.pre.waiting s < session.slots

section

variable {platform : Platform} {start w w' : World} {act : Action} {history : History World Action}
  {s : Nat}

/-! ## Slots -/

/-- A URB under way has a permit, or has dropped it and waits. -/
theorem countP_pending (s : Nat) (tasks : List Task) :
    tasks.countP (Task.pending s) =
      tasks.countP (Task.holdsPermit s) + tasks.countP (Task.waiting s) := by
  induction tasks with
  | nil => rfl
  | cons task tasks ih =>
      have hone : (if Task.pending s task then 1 else 0) =
          (if Task.holdsPermit s task then 1 else 0) + if Task.waiting s task then 1 else 0 := by
        unfold Task.pending Task.holdsPermit Task.waiting
        by_cases hsession : task.session = s
        · cases task.pc <;> simp [hsession]
        · simp [hsession]
      rw [List.countP_cons, List.countP_cons, List.countP_cons, ih]
      omega

theorem Permits.pending_add_slots (h : Permits w) {session : Session}
    (found : w.sessions[s]? = some session) :
    w.pending s + session.slots = MAX_IN_FLIGHT_URBS + w.waiting s := by
  have hconserved := h.conserved s session found
  have hsplit := countP_pending s w.tasks
  unfold World.pending World.waiting
  omega

/-- A task that ends is not under way, and one that has ended never was. -/
theorem Task.pending_advance {task : Task} {server : ServerState} {io : TaskIo} {pc : TaskPc}
    (taken : task.advance server io = some pc) :
    (if Task.pending s { task with pc } then 1 else 0) ≤
      if Task.pending s task then 1 else 0 := by
  obtain ⟨home, urb, presence, owner, stage⟩ := task
  unfold Task.pending
  by_cases hsession : home = s
  · cases stage with
    | finished => cases taken
    | _ =>
        simp only [hsession]
        split <;> simp
  · simp [hsession]

theorem TakesSlot.unique {session session' : Session} {t : Transition World Action}
    (h : TakesSlot s session t) (found : t.pre.sessions[s]? = some session') :
    session = session' := by
  rw [h.found, Option.some.injEq] at found
  exact found

/-- The URBs under way are one more when a slot is taken, and otherwise no more. -/
theorem pending_step (taken : w.step platform act = some w') :
    (∃ session, TakesSlot s session ⟨w, act, w'⟩) ∧ w'.pending s = w.pending s + 1 ∨
      (¬ ∃ session, TakesSlot s session ⟨w, act, w'⟩) ∧ w'.pending s ≤ w.pending s := by
  cases World.step_cases taken with
  | @advance index session draw outcome found htaken =>
      by_cases hindex : index = s
      · subst hindex
        cases Session.advance_cases htaken with
        | @urbSpawned urb owner presence pc free =>
            refine .inl ⟨⟨session, ⟨draw, rfl⟩, found, urb, owner, presence, pc⟩, ?_⟩
            unfold World.pending
            rw [Option.toList_some, List.countP_append, List.countP_singleton]
            simp [Task.pending]
        | _ pc =>
            refine .inr ⟨?_, ?_⟩
            · rintro ⟨session', hslot⟩
              obtain rfl := hslot.unique found
              obtain ⟨urb, owner, presence, hpc⟩ := hslot.pc
              rw [hpc] at pc
              cases pc
            · unfold World.pending
              rw [Option.toList_none, List.append_nil]
      · refine .inr ⟨?_, ?_⟩
        · rintro ⟨session', ⟨draw', hact⟩, -, -⟩
          exact hindex (Action.advance.inj hact).1
        · have helsewhere : outcome.spawned.toList.countP (Task.pending s) = 0 := by
            cases Session.advance_cases htaken with
            | urbSpawned => simp [Task.pending, hindex]
            | _ => rfl
          unfold World.pending
          rw [List.countP_append, helsewhere]
          exact Nat.le_refl _
  | @task index task session reached io pc found home htaken reach =>
      refine .inr ⟨?_, ?_⟩
      · rintro ⟨session', ⟨draw, hact⟩, -, -⟩
        cases hact
      · have hcount := countP_set (Task.pending s) found { task with pc }
        have hone := Task.pending_advance (s := s) htaken
        unfold World.pending
        dsimp only
        omega
  | tick | refreshHostDevices | renewExpiredPin | accept | recv | eof | write | fail | joined
  | release =>
      refine .inr ⟨?_, Nat.le_refl _⟩
      rintro ⟨session', ⟨draw, hact⟩, -, -⟩
      cases hact

/-! ## The outgoing queue -/

/-- No session holds more than `OUT_QUEUE` messages. -/
def World.QueuesBounded (w : World) : Prop :=
  ∀ (s : Nat) session, w.sessions[s]? = some session → session.queue.length ≤ OUT_QUEUE

theorem World.QueuesBounded.step (h : w.QueuesBounded) (taken : w.step platform act = some w') :
    w'.QueuesBounded := by
  intro s session' found'
  rcases World.step_session taken found' with ⟨-, -, rfl⟩ | ⟨session, found, -⟩
  · exact Nat.zero_le _
  have hold := h s session found
  cases World.step_queue_cases taken found found' with
  | kept hqueue =>
      rw [hqueue]
      exact hold
  | written msg hact head =>
      rw [head] at hold
      exact Nat.le_of_succ_le hold
  | replied draw msg hact pc room hqueue =>
      rw [hqueue, List.length_append]
      exact room
  | sent i io task result hact hfound home pc room hqueue =>
      rw [hqueue, List.length_append]
      exact room

theorem queue_run (hstart : World.Starting platform start)
    (run : World.Runs platform start history w) (s : Nat) : (w.queue s).length ≤ OUT_QUEUE := by
  have hall : w.QueuesBounded := by
    refine run.invariant World.QueuesBounded ?_ fun _ _ _ h taken => h.step taken
    cases hstart <;> simp [World.QueuesBounded, World.initial]
  unfold World.queue
  split
  · rename_i session found
    exact hall s session found
  · exact Nat.zero_le _

/-! ## The bound -/

theorem World.bounded_iff (hstart : World.Starting platform start)
    (run : World.Runs platform start history w) :
    w.Bounded s ↔ w.pending s ≤ MAX_IN_FLIGHT_URBS :=
  ⟨fun h => h.inFlight, fun h => ⟨h, Nat.add_le_add h (queue_run hstart run s)⟩⟩

/-- The URBs under way are few as long as slots are taken with some to spare. -/
theorem pending_le (hstart : World.Starting platform start)
    (run : World.Runs platform start history w) (hspare : ∀ t ∈ history, SlotToSpare s t) :
    w.pending s ≤ MAX_IN_FLIGHT_URBS := by
  induction run with
  | nil => cases hstart <;> exact Nat.zero_le _
  | @snoc history pre post act run taken ih =>
      have hpre := ih fun t ht => hspare t (List.mem_cons_of_mem _ ht)
      rcases pending_step (s := s) taken with ⟨⟨session, hslot⟩, hone⟩ | ⟨-, hle⟩
      · have hless := hspare _ List.mem_cons_self session hslot
        have hslots := (World.permits_run hstart run).pending_add_slots hslot.found
        dsimp only at hless
        omega
      · exact Nat.le_trans hle hpre

/-- Bounded work in a session.  In a run of the server, a session stays within its bounds
throughout if and only if its reader takes a slot only when more slots are free than
completions wait for the outgoing queue. -/
theorem in_flight_bounded_iff (hstart : World.Starting platform start)
    (run : World.Runs platform start history w) (s : Nat) :
    (start.Bounded s ∧ ∀ t ∈ history, t.post.Bounded s) ↔ ∀ t ∈ history, SlotToSpare s t := by
  have hempty : start.Bounded s := by
    refine (World.bounded_iff hstart .nil).mpr ?_
    cases hstart <;> exact Nat.zero_le _
  constructor
  · rintro ⟨-, hbounded⟩ t ht session hslot
    obtain ⟨later, earlier, rfl⟩ := List.append_of_mem ht
    obtain ⟨runBefore, taken, -⟩ := run.cut
    have hslots := (World.permits_run hstart runBefore).pending_add_slots hslot.found
    have hpost := (hbounded t ht).inFlight
    rcases pending_step (s := s) taken with ⟨-, hone⟩ | ⟨hnone, -⟩
    · omega
    · exact absurd ⟨session, hslot⟩ hnone
  · intro hspare
    refine ⟨hempty, fun t ht => ?_⟩
    obtain ⟨later, earlier, rfl⟩ := List.append_of_mem ht
    obtain ⟨runBefore, taken, -⟩ := run.cut
    refine (World.bounded_iff hstart (runBefore.snoc taken)).mpr ?_
    exact pending_le hstart (runBefore.snoc taken) fun u hu =>
      hspare u (List.mem_append_right _ hu)

end

namespace Sample

/-- A URB takes a slot. -/
def admitted : List Action := admissible ++ [.advance 0 (draw 0)]

end Sample

theorem sample_in_flight_bounded :
    Sample.start.Bounded 0 ∧ ∀ t ∈ (Sample.after Sample.admitted).1, t.post.Bounded 0 := by
  have hslots : ∀ t ∈ (Sample.after Sample.admitted).1,
      t.pre.waiting 0 = 0 ∧ ∀ session ∈ t.pre.sessions, 0 < session.slots := by
    decide +kernel
  refine (in_flight_bounded_iff Sample.starting (Sample.runs Sample.admitted) 0).mpr ?_
  intro t ht session hslot
  rw [(hslots t ht).1]
  exact (hslots t ht).2 session (List.mem_of_getElem? hslot.found)

/-! ## A peer that reads nothing -/

section

variable {platform : Platform} {w : World}

/-- A server with one session. -/
def World.serving (w : World) (session : Session) (tasks : List Task) : World :=
  { w with sessions := [session], tasks }

theorem step_serving {session session' : Session} {tasks : List Task} {draw : Draw}
    (taken : session.advance platform w.now draw w.server 0 = some ⟨w.server, session', none⟩) :
    (w.serving session tasks).step platform (.advance 0 draw) = some (w.serving session' tasks) := by
  simp only [World.step, World.serving, List.getElem?_cons_zero, Option.bind_eq_bind,
    Option.bind_some, taken, Option.toList_none, List.append_nil]
  rfl

theorem step_serving_spawn {session session' : Session} {tasks : List Task} {task : Task}
    {draw : Draw} (taken : session.advance platform w.now draw w.server 0 =
      some ⟨w.server, session', some task⟩) :
    (w.serving session tasks).step platform (.advance 0 draw) =
      some (w.serving session' (tasks ++ [task])) := by
  simp only [World.step, World.serving, List.getElem?_cons_zero, Option.bind_eq_bind,
    Option.bind_some, taken]
  rfl

theorem step_serving_task {session reached : Session} {tasks : List Task} {task : Task} {io : TaskIo}
    {pc : TaskPc} (home : task.session = 0)
    (taken : task.advance w.server io = some pc) (reach : task.reach session = some reached) :
    (w.serving session (tasks ++ [task])).step platform (.task tasks.length io) =
      some (w.serving reached (tasks ++ [{ task with pc }])) := by
  simp only [World.step, World.stepTask, World.serving, List.getElem?_concat_length, home,
    List.getElem?_cons_zero, Option.bind_eq_bind, Option.bind_some, taken, reach]
  simp [World.setSession]

end

namespace Sample

/-- Session 0 submits the URB, and its task, number `index`, goes on until it has dropped
its permit. -/
def overtake (index : Nat) : List Action :=
  submit 0 ++ [.advance 0 (draw 0)] ++ List.replicate 4 (.task index io)

def task (pc : TaskPc) : Task := { session := 0, urb, presence := 0, owner := peer, pc }

theorem step_task {w : World} {session reached : Session} {tasks : List Task} {pc pc' : TaskPc}
    (taken : (task pc).advance w.server io = some pc')
    (reach : (task pc).reach session = some reached) :
    (w.serving session (tasks ++ [task pc])).step platform (.task tasks.length io) =
      some (w.serving reached (tasks ++ [task pc'])) :=
  step_serving_task rfl taken reach

theorem replay_overtake {w : World} (entitled : Entitled 1 peer w)
    (formed : w.server.devices.WellFormed)
    (present : w.server.devices.presenceToken 1 = some 0) (set : w.server.devices.load 0 = true)
    {session : Session} (principal : session.principal = some peer) (pc : session.pc = .reading)
    (free : session.slots = MAX_IN_FLIGHT_URBS) (tasks : List Task) (history : ServerHistory) :
    ∃ history', replay (World.step platform) (overtake tasks.length)
        (history, w.serving session tasks) =
      (history', w.serving session (tasks ++ [task (.sending (completeUrb urb))])) := by
  obtain ⟨greeted, _, _, queue, _⟩ := session
  cases principal
  cases pc
  cases free
  -- the reader admits the URB
  let reader (pc : Pc) (slots : Nat) : Session := ⟨greeted, some peer, pc, queue, slots⟩
  have htokens : (reader (.urbTokens urb peer) 64).advance platform w.now (draw 0) w.server 0 =
      some ⟨w.server, reader (.urbLease urb peer true) 64, none⟩ := by
    have hactive := entitled.active
    dsimp only [reader, Session.advance]
    rw [hactive]
  have hlease : (reader (.urbLease urb peer true) 64).advance platform w.now (draw 0) w.server 0 =
      some ⟨w.server, reader (.urbPresence urb peer) 64, none⟩ :=
    if_pos ⟨rfl, entitled.leased⟩
  have hpresence : (reader (.urbPresence urb peer) 64).advance platform w.now (draw 0) w.server 0 =
      some ⟨w.server, reader (.urbSlot urb peer 0) 64, none⟩ := by
    dsimp only [reader, Session.advance]
    rw [show urb.deviceId = 1 from rfl, present]
  have hslot : (reader (.urbSlot urb peer 0) 64).advance platform w.now (draw 0) w.server 0 =
      some ⟨w.server, reader .reading 63, some (task .start)⟩ := rfl
  -- its task goes on
  obtain ⟨found, hget, hbackend⟩ := entitled.emulated
  have hfind := DeviceInventory.find?_snapshot formed hget
  have hstart : (task .start).advance w.server io = some .snapshot := by
    dsimp only [task, Task.advance]
    rw [if_pos set, entitled.completer]
  have hsnapshot : (task .snapshot).advance w.server io = some .callEmulated := by
    dsimp only [task, Task.advance, ServerState.devicesSnapshot]
    rw [show urb.deviceId = 1 from rfl, hfind, Option.map_some, hbackend]
  have hemulated : (task .callEmulated).advance w.server io =
      some (.release (completeUrb urb)) := rfl
  have hrelease : (task (.release (completeUrb urb))).advance w.server io =
      some (.sending (completeUrb urb)) := rfl
  have hdropped : (task (.release (completeUrb urb))).reach (reader .reading 63) =
      some (reader .reading 64) := rfl
  have hrecv : (w.serving (reader .reading 64) tasks).step platform (.recv 0 (.urbSubmit urb)) =
      some (w.serving (reader (.urbTokens urb peer) 64) tasks) := rfl
  unfold overtake submit
  simp only [List.cons_append, List.nil_append, List.replicate_succ, List.replicate_zero]
  rw [replay_cons hrecv, replay_cons (step_serving htokens), replay_cons (step_serving hlease),
    replay_cons (step_serving hpresence), replay_cons (step_serving_spawn hslot),
    replay_cons (step_task hstart rfl), replay_cons (step_task hsnapshot rfl),
    replay_cons (step_task hemulated rfl), replay_cons (step_task hrelease hdropped)]
  exact ⟨_, rfl⟩

/-- Session 0 is paired and has attached the device, and its peer has read all replies. -/
def entered : List Action := pair 0 peer 9 ++ attach 0 9 ++ List.replicate 3 (.write 0)

/-- From here on the peer reads nothing.  `n` completions get into the outgoing queue. -/
def delivered : Nat → List Action
  | 0 => entered
  | n + 1 => delivered n ++ overtake n ++ [.task n io]

/-- With the queue full, `n` more URBs are submitted. -/
def flood : Nat → List Action
  | 0 => delivered OUT_QUEUE
  | n + 1 => flood n ++ overtake (OUT_QUEUE + n)

/-- The state with `queued` completions in the queue and `n` waiting for it. -/
def flooded (session : Session) (queued n : Nat) : World :=
  (after entered).2.serving
    { session with queue := List.replicate queued (.urbComplete (completeUrb urb)) }
    (List.replicate queued (task .finished) ++
      List.replicate n (task (.sending (completeUrb urb))))

/-- What session 0 is after entering. -/
structure Entered (session : Session) : Prop where
  principal : session.principal = some peer
  pc : session.pc = .reading
  slots : session.slots = MAX_IN_FLIGHT_URBS
  queue : session.queue = []
  alone : (after entered).2.sessions = [session]

def reads : Pc → Bool
  | .reading => true
  | _ => false

theorem reading_of_reads {pc : Pc} (h : reads pc = true) : pc = .reading := by
  cases pc <;> first | rfl | cases h

theorem entered_session : ∃ session, Entered session := by
  have hlength : (after entered).2.sessions.length = 1 := by decide +kernel
  obtain ⟨session, hsession⟩ := List.length_eq_one_iff.mp hlength
  have hprincipal : (after entered).2.sessions.all (fun session =>
      session.principal = some peer ∧ session.slots = MAX_IN_FLIGHT_URBS ∧ session.queue = [])
      = true := by decide +kernel
  have hpc : (after entered).2.sessions.all (fun session => reads session.pc) = true := by
    decide +kernel
  rw [hsession] at hprincipal hpc
  simp only [List.all_cons, List.all_nil, Bool.and_true, decide_eq_true_eq] at hprincipal hpc
  exact ⟨session, hprincipal.1, reading_of_reads hpc, hprincipal.2.1, hprincipal.2.2, hsession⟩

theorem replay_entered {session : Session} (h : Entered session) (queued n : Nat)
    (history : ServerHistory) :
    ∃ history', replay (World.step platform) (overtake (queued + n))
        (history, flooded session queued n) = (history', flooded session queued (n + 1)) := by
  have entitled : Entitled 1 peer (after entered).2 :=
    ⟨by decide +kernel, ⟨device, by decide +kernel, by decide⟩, by decide +kernel, by decide +kernel⟩
  have hprincipal : ({ session with
      queue := List.replicate queued (.urbComplete (completeUrb urb)) } : Session).principal =
      some peer := h.principal
  have hreplay := replay_overtake entitled (inventory_wellFormed starting (runs entered))
    (by decide +kernel) (by decide +kernel) hprincipal h.pc h.slots
    (List.replicate queued (task .finished) ++
      List.replicate n (task (.sending (completeUrb urb)))) history
  rw [List.length_append, List.length_replicate, List.length_replicate, List.append_assoc,
    ← List.replicate_succ'] at hreplay
  exact hreplay

/-- The queue takes a completion when there is room. -/
theorem step_delivered {session : Session} (hpc : session.pc = .reading) {queued : Nat}
    (room : queued < OUT_QUEUE) :
    (flooded session queued 1).step platform (.task queued io) =
      some (flooded session (queued + 1) 0) := by
  have hreach : (task (.sending (completeUrb urb))).reach
      { session with queue := List.replicate queued (.urbComplete (completeUrb urb)) } =
      some { session with
        queue := List.replicate (queued + 1) (.urbComplete (completeUrb urb)) } := by
    unfold Task.reach
    dsimp only [task]
    rw [hpc]
    dsimp only
    rw [List.length_replicate, if_pos room, List.replicate_succ']
  have htaken : (task (.sending (completeUrb urb))).advance (after entered).2.server io =
      some .finished := rfl
  have hstep := @step_task _ _ _ (List.replicate queued (task .finished)) _ _ htaken hreach
  rw [List.length_replicate, ← List.replicate_succ'] at hstep
  unfold flooded
  rw [List.replicate_zero, List.append_nil]
  exact hstep

theorem after_delivered {session : Session} (h : Entered session) {n : Nat} (room : n ≤ OUT_QUEUE) :
    ∃ history, after (delivered n) = (history, flooded session n 0) := by
  induction n with
  | zero =>
      have htasks : (after entered).2.tasks = [] := by decide +kernel
      have hsession : ({ session with queue := [] } : Session) = session := by
        rw [← h.queue]
      have hstart : flooded session 0 0 = (after entered).2 := by
        unfold flooded World.serving
        rw [List.replicate_zero, hsession, ← h.alone]
        exact congrArg (fun tasks => { (after entered).2 with tasks }) htasks.symm
      exact ⟨(after entered).1, Prod.ext rfl hstart.symm⟩
  | succ n ih =>
      obtain ⟨history, hbefore⟩ := ih (Nat.le_of_succ_le room)
      obtain ⟨history', hround⟩ := replay_entered h n 0 history
      rw [after] at hbefore
      rw [Nat.add_zero] at hround
      rw [after, delivered, replay_append, replay_append, hbefore, hround,
        replay_cons (step_delivered h.pc room)]
      exact ⟨_, rfl⟩

theorem after_flood {session : Session} (h : Entered session) (n : Nat) :
    ∃ history, after (flood n) = (history, flooded session OUT_QUEUE n) := by
  induction n with
  | zero => exact after_delivered h (Nat.le_refl _)
  | succ n ih =>
      obtain ⟨history, hbefore⟩ := ih
      obtain ⟨history', hround⟩ := replay_entered h OUT_QUEUE n history
      refine ⟨history', ?_⟩
      rw [after] at hbefore
      rw [after, flood, replay_append, hbefore, hround]

/-- The URBs under way are as many as were submitted on the full queue, without bound. -/
theorem pending_flood (n : Nat) : (after (flood n)).2.pending 0 = n := by
  obtain ⟨session, h⟩ := entered_session
  obtain ⟨history, hflood⟩ := after_flood h n
  rw [hflood]
  unfold World.pending flooded World.serving
  rw [List.countP_append, List.countP_replicate, List.countP_replicate]
  simp [Task.pending, task]

end Sample

/-- A peer that reads nothing has 65 URBs under way, with the outgoing queue full. -/
theorem flooded_session_overfull :
    World.Runs Sample.platform Sample.start (Sample.after (Sample.flood 65)).1
      (Sample.after (Sample.flood 65)).2 ∧
    ¬ (Sample.after (Sample.flood 65)).2.Bounded 0 := by
  refine ⟨Sample.runs _, fun h => ?_⟩
  have hbound := h.inFlight
  rw [Sample.pending_flood] at hbound
  exact absurd hbound (by decide)

end FarBus.Core
