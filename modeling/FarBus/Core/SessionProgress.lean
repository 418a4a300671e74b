/-
  Core/SessionProgress.lean --- a session that serves its peer loses nothing and does not
  get stuck.

  What the session owes an answer to is with its reader, with a task or on its queue,
  under the number that the answer is matched by.  Its own steps use up the work it has,
  and as long as it has any, one of them is enabled: the writer empties the queue, then
  the tasks can finish, then their permits are back, then the reader can go on.
-/
import FarBus.Core.LinkedUrbs

set_option autoImplicit false

namespace FarBus.Core

open FarBus.Foundation
open FarBus.Protocol

/-! ## What an answer is matched by -/

inductive UrbKey where
  | urb (seq : UInt32)
  | unlink (seq : UInt32)
  deriving DecidableEq, Repr

/-- The number of a URB, of an unlink, or of the answer to either. -/
def urbKey : Message → Option UrbKey
  | .urbSubmit urb => some (.urb urb.seq)
  | .urbComplete complete => some (.urb complete.seq)
  | .urbUnlink unlink => some (.unlink unlink.seq)
  | .urbUnlinked unlinked => some (.unlink unlinked.seq)
  | _ => none

def Pc.urbKey : Pc → Option UrbKey
  | .urbTokens urb _ | .urbLease urb _ _ | .urbPresence urb _ | .urbSlot urb _ _ =>
      some (.urb urb.seq)
  | .unlinkLease unlink _ => some (.unlink unlink.seq)
  | .replying msg => FarBus.Core.urbKey msg
  | _ => none

/-- Session `s` has something with that number. -/
inductive World.Carries (w : World) (s : Nat) : UrbKey → Prop where
  | reader {session : Session} {key : UrbKey} (found : w.sessions[s]? = some session)
      (pc : session.pc.urbKey = some key) : Carries w s key
  | queued {session : Session} {msg : Message} {key : UrbKey}
      (found : w.sessions[s]? = some session) (mem : msg ∈ session.queue)
      (keyed : urbKey msg = some key) : Carries w s key
  | task {index : Nat} {task : Task} (found : w.tasks[index]? = some task)
      (home : task.session = s) (unfinished : task.pc ≠ .finished) : Carries w s (.urb task.urb.seq)

section

variable {platform : Platform} {asked : UrbSubmit → Prop} {deviceId : DeviceId}
  {owner : PeerFingerprint} {token : PresenceToken} {s : Nat} {w w' : World} {act : Action}
  {key : UrbKey} {session : Session}

/-- A session that is still open has not been left in the step. -/
theorem World.Open.of_set (h : w'.Open s) (found : w.sessions[s]? = some session) {new : Session}
    (sessions : w'.sessions = w.sessions.set s new) : new.joining = true ∧ new.pc ≠ .draining := by
  obtain ⟨session', found', hjoining, hpc⟩ := h
  rw [sessions, lookup_set_self found] at found'
  cases found'
  exact ⟨hjoining, hpc⟩

theorem Session.Serves.not_ended (h : session.Serves asked deviceId owner token) :
    session.pc ≠ .ended := by
  intro hended
  have hpc := h.pc
  rw [hended] at hpc
  exact hpc.elim

/-- Nothing changes for the session. -/
theorem World.Carries.frame (h : w.Carries s key) (session : w'.sessions[s]? = w.sessions[s]?)
    (tasks : ∀ {index : Nat} {task : Task}, w.tasks[index]? = some task → task.session = s →
      w'.tasks[index]? = some task) : w'.Carries s key := by
  cases h with
  | reader found pc => exact .reader (session.trans found) pc
  | queued found mem keyed => exact .queued (session.trans found) mem keyed
  | task found home unfinished => exact .task (tasks found home) home unfinished

/-- The session changes, and the tasks stay. -/
theorem World.Carries.move (h : w.Carries s key) {old new : Session}
    (found : w.sessions[s]? = some old) (sessions : w'.sessions[s]? = some new)
    (reader : old.pc.urbKey = some key → w'.Carries s key)
    (queue : ∀ msg ∈ old.queue, msg ∈ new.queue)
    (tasks : ∀ {index : Nat} {task : Task}, w.tasks[index]? = some task → task.session = s →
      w'.tasks[index]? = some task) : w'.Carries s key := by
  cases h with
  | reader found' pc =>
      rw [found] at found'
      cases found'
      exact reader pc
  | queued found' mem keyed =>
      rw [found] at found'
      cases found'
      exact .queued sessions (queue _ mem) keyed
  | task found' home unfinished => exact .task (tasks found' home) home unfinished

/-- A section of the reader hands on what it has. -/
theorem Session.AdvanceCases.carries {draw : Draw} {outcome : Outcome}
    (entered : session.AdvanceCases platform w.now draw w.server s outcome)
    (hkey : session.pc.urbKey = some key) :
    outcome.session.pc.urbKey = some key ∨
      (∃ msg ∈ outcome.session.queue, urbKey msg = some key) ∨
      ∃ task, outcome.spawned = some task ∧ task.session = s ∧ task.pc ≠ .finished ∧
        key = .urb task.urb.seq := by
  cases entered with
  | replied pc room =>
      rw [pc] at hkey
      exact .inr (.inl ⟨_, List.mem_append_right _ (List.mem_singleton_self _), hkey⟩)
  | urbSpawned pc free =>
      rw [pc] at hkey
      cases hkey
      exact .inr (.inr ⟨_, rfl, rfl, TaskPc.noConfusion, rfl⟩)
  | tokensExamined pc | urbLeased pc | urbRefused pc | urbAbsent pc | urbPresent pc | unlinked pc =>
      rw [pc] at hkey
      exact .inl hkey
  | pinAccepted pc | pinRefused pc | issued pc | paired pc | tokenUnknown pc | tokenRefused pc
  | tokenAccepted pc | authorizedDevices pc | authorizedAttach pc | authorizedDetach pc | listed pc
  | attachUnknown pc | attached pc | detached pc =>
      rw [pc] at hkey
      cases hkey

theorem Session.AdvanceCases.queue_kept {now : Instant} {draw : Draw} {server : ServerState}
    {outcome : Outcome} (entered : session.AdvanceCases platform now draw server s outcome) :
    ∀ msg ∈ session.queue, msg ∈ outcome.session.queue := by
  cases entered with
  | replied => exact fun msg mem => List.mem_append_left _ mem
  | _ => exact fun msg mem => mem

theorem Task.reach_queue_kept {task : Task} {session reached : Session}
    (h : task.reach session = some reached) : ∀ msg ∈ session.queue, msg ∈ reached.queue := by
  rcases Task.reach_queue_cases h with hqueue | ⟨result, -, -, hqueue⟩ <;> rw [hqueue]
  · exact fun msg mem => mem
  · exact fun msg mem => List.mem_append_left _ mem

/-- The task that finishes has put its completion on the queue. -/
theorem Task.Serves.queued {task : Task} {reached : Session} {server : ServerState} {io : TaskIo}
    {pc : TaskPc} (h : task.Serves asked token) (hended : session.pc ≠ .ended) (taken : task.advance server io = some pc)
    (reach : task.reach session = some reached) :
    pc ≠ .finished ∨ ∃ msg ∈ reached.queue, urbKey msg = some (.urb task.urb.seq) := by
  by_cases hsending : ∃ result, task.pc = .sending result
  · obtain ⟨result, hpc⟩ := hsending
    unfold Task.Serves at h
    unfold Task.reach at reach
    rw [hpc] at h
    rw [hpc] at reach
    dsimp only at h reach
    split at reach
    · rename_i hpcEnded
      exact absurd hpcEnded hended
    · split at reach
      · cases reach
        refine .inr ⟨_, List.mem_append_right _ (List.mem_singleton_self _), ?_⟩
        rw [h.2]
        exact congrArg (fun seq => some (UrbKey.urb seq)) (completeUrb_seq task.urb)
      · cases reach
  · exact .inl (Task.advance_unfinished taken fun result hpc => hsending ⟨result, hpc⟩)

/-- Only its writer takes anything from a session that serves its peer. -/
theorem World.Carries.step (h : w.Carries s key) (hserves : Serves asked deviceId owner token s w)
    (taken : w.step platform act = some w') (hopen' : w'.Open s) (hact : act ≠ .write s) :
    w'.Carries s key := by
  obtain ⟨session, found, hsession⟩ := hserves.session
  have hself : ∀ {new : Session}, (w.sessions.set s new)[s]? = some new :=
    lookup_set_self found _
  -- another session moves
  have hother : ∀ {i : Nat} {new : Session}, i ≠ s → w'.sessions = w.sessions.set i new →
      w'.tasks = w.tasks → w'.Carries s key := by
    intro i new hne sessions tasks
    refine h.frame ?_ ?_
    · rw [sessions, List.getElem?_set_ne hne]
    · intro index task hfound _
      rw [tasks]
      exact hfound
  cases World.step_cases taken with
  | tick | refreshHostDevices | renewExpiredPin => exact h.frame rfl fun hfound _ => hfound
  | accept =>
      refine h.frame ?_ fun hfound _ => hfound
      exact List.getElem?_append_left (List.getElem?_eq_some_iff.mp found).1
  | @recv i old msg hfound pc =>
      by_cases hi : i = s
      · subst hi
        refine h.move hfound hself ?_ ?_ fun htask _ => htask
        · rw [pc]
          intro hkey
          cases hkey
        · rw [Session.dispatch_queue]
          exact fun msg mem => mem
      · exact hother hi rfl rfl
  | @eof i old hfound pc =>
      by_cases hi : i = s
      · subst hi
        exact absurd rfl (hopen'.of_set hfound rfl).2
      · exact hother hi rfl rfl
  | @advance i old draw outcome hfound htaken =>
      have hentered := Session.advance_cases htaken
      have htasks : ∀ {index : Nat} {task : Task}, w.tasks[index]? = some task →
          (w.tasks ++ outcome.spawned.toList)[index]? = some task :=
        fun htask => (List.getElem?_append_left (List.getElem?_eq_some_iff.mp htask).1).trans htask
      by_cases hi : i = s
      · subst hi
        refine h.move hfound hself ?_ hentered.queue_kept fun htask _ => htasks htask
        intro hkey
        rcases hentered.carries hkey with hpc | ⟨msg, mem, hmsg⟩ |
          ⟨task, hspawned, home, unfinished, rfl⟩
        · exact .reader hself hpc
        · exact .queued hself mem hmsg
        · refine @World.Carries.task _ _ w.tasks.length task ?_ home unfinished
          rw [hspawned]
          exact List.getElem?_concat_length
      · exact h.frame (List.getElem?_set_ne hi) fun htask _ => htasks htask
  | @write i old msg queue pc hfound joining head kept =>
      by_cases hi : i = s
      · subst hi
        exact absurd rfl hact
      · exact hother hi rfl rfl
  | @fail i old hfound | @joined i old hfound | @release i old hfound =>
      by_cases hi : i = s
      · subst hi
        have hjoining := (hopen'.of_set hfound rfl).1
        cases hjoining
      · exact hother hi rfl rfl
  | @task index task old reached io pc hfound home htaken reach =>
      by_cases hi : task.session = s
      · subst hi
        obtain rfl : session = old := Option.some.inj (found.symm.trans home)
        have hmoved : (w.tasks.set index { task with pc })[index]? = some { task with pc } :=
          lookup_set_self hfound _
        cases h with
        | @reader session' key found' hkey =>
            rw [found] at found'
            cases found'
            rw [← (Task.reach_control reach).2.2] at hkey
            exact .reader hself hkey
        | queued found' mem keyed =>
            rw [found] at found'
            cases found'
            exact .queued hself (Task.reach_queue_kept reach _ mem) keyed
        | @task index' task' found' home' unfinished =>
            by_cases hindex : index = index'
            · subst hindex
              obtain rfl : task = task' := Option.some.inj (hfound.symm.trans found')
              have htask := hserves.tasks task (List.mem_of_getElem? hfound) rfl
              rcases htask.queued hsession.not_ended htaken reach with
                hpc | ⟨msg, mem, hmsg⟩
              · exact @World.Carries.task _ _ index { task with pc } hmoved home' hpc
              · exact .queued hself mem hmsg
            · exact .task ((List.getElem?_set_ne hindex).trans found') home' unfinished
      · refine h.frame (List.getElem?_set_ne hi) ?_
        intro index' task' found' home'
        refine (List.getElem?_set_ne ?_).trans found'
        rintro rfl
        obtain rfl : task = task' := Option.some.inj (hfound.symm.trans found')
        exact hi home'

/-- What the writer takes is what it writes. -/
theorem World.Carries.write (h : w.Carries s key) (taken : w.step platform (.write s) = some w')
    (hopen' : w'.Open s) :
    w'.Carries s key ∨ ∃ session msg, w.sessions[s]? = some session ∧
      session.queue.head? = some msg ∧ carry msg = some msg ∧ urbKey msg = some key := by
  obtain ⟨session, msg, queue, found, joining, head, hcases⟩ := World.write_cases taken
  have hself : ∀ {new : Session}, (w.sessions.set s new)[s]? = some new :=
    lookup_set_self found _
  rcases hcases with ⟨carried, rfl⟩ | ⟨-, rfl⟩
  · cases h with
    | reader found' hkey =>
        rw [found] at found'
        cases found'
        exact .inl (.reader hself hkey)
    | task found' home unfinished => exact .inl (.task found' home unfinished)
    | @queued session' msg' key found' mem keyed =>
        rw [found] at found'
        cases found'
        rw [head] at mem
        rcases List.mem_cons.mp mem with rfl | mem
        · exact .inr ⟨session, msg', found, by rw [head]; rfl, carried, keyed⟩
        · exact .inl (.queued hself mem keyed)
  · have hjoining := (hopen'.of_set found rfl).1
    cases hjoining

/-- What a session reads it has. -/
theorem Serves.received (h : Serves asked deviceId owner token s w) {msg : Message}
    (hrequest : RequestFor asked deviceId msg)
    (taken : w.step platform (.recv s msg) = some w') (hkey : urbKey msg = some key) :
    w'.Carries s key := by
  obtain ⟨session, found, hsession⟩ := h.session
  cases World.step_cases taken with
  | recv msg hfound pc =>
      rw [found] at hfound
      cases hfound
      refine .reader (lookup_set_self found _) ?_
      cases msg with
      | urbSubmit urb =>
          simp only [Session.dispatch, hsession.principal]
          exact hkey
      | urbUnlink unlink =>
          simp only [Session.dispatch, hsession.principal]
          exact hkey
      | _ => exact hrequest.elim

end

/-! ## The work of a session -/

/-- How many steps a reader that serves its peer can still cause. -/
def Pc.urbWork : Pc → Nat
  | .urbTokens _ _ => 12
  | .urbLease _ _ _ => 11
  | .urbPresence _ _ => 10
  | .urbSlot _ _ _ => 9
  | .unlinkLease _ _ => 4
  | .replying _ => 3
  | _ => 0

def TaskPc.urbWork : TaskPc → Nat
  | .start => 8
  | .snapshot => 7
  | .callEmulated => 6
  | .release _ => 5
  | .sending _ => 4
  | _ => 0

def Session.urbWork (session : Session) : Nat := session.pc.urbWork + 2 * session.queue.length

def Task.urbWork (s : Nat) (task : Task) : Nat := if task.session = s then task.pc.urbWork else 0

/-- An answer on the queue is to be written, and read. -/
def World.urbWork (w : World) (s : Nat) : Nat :=
  (match w.sessions[s]? with
    | some session => session.urbWork
    | none => 0) +
  (w.tasks.map (Task.urbWork s)).sum

/-- The work that a step of session `s` uses up. -/
def Action.uses (w : World) (s : Nat) : Action → Nat
  | .advance s' _ => if s' = s then 1 else 0
  | .write s' => if s' = s then 2 else 0
  | .task index _ =>
      match w.tasks[index]? with
      | some found => if found.session = s then 1 else 0
      | none => 0
  | _ => 0

/-- A message that is read brings work. -/
def Action.brings (s : Nat) : Action → Nat
  | .recv s' _ => if s' = s then 12 else 0
  | _ => 0

section

variable {platform : Platform} {asked : UrbSubmit → Prop} {deviceId : DeviceId}
  {owner : PeerFingerprint} {token : PresenceToken} {s : Nat} {w w' : World} {act : Action}
  {session : Session}

theorem World.urbWork_of_found (found : w.sessions[s]? = some session) :
    w.urbWork s = session.urbWork + (w.tasks.map (Task.urbWork s)).sum := by
  unfold World.urbWork
  rw [found]

theorem World.urbWork_of_same (session : w'.sessions[s]? = w.sessions[s]?)
    (tasks : w'.tasks = w.tasks) : w'.urbWork s = w.urbWork s := by
  unfold World.urbWork
  rw [session, tasks]

theorem Session.Serves.advance_work {draw : Draw} {outcome : Outcome}
    (h : session.Serves asked deviceId owner token)
    (entered : session.AdvanceCases platform w.now draw w.server s outcome) :
    outcome.session.urbWork + (outcome.spawned.toList.map (Task.urbWork s)).sum <
      session.urbWork := by
  have hpc := h.pc
  unfold Session.urbWork
  cases entered with
  | replied pc room =>
      rw [pc, List.length_append]
      show 0 + 2 * (session.queue.length + 1) + 0 < 3 + 2 * session.queue.length
      omega
  | urbSpawned pc free =>
      rw [pc]
      simp only [Option.toList_some, List.map_cons, List.map_nil, List.sum_cons, List.sum_nil,
        Task.urbWork, if_true]
      show 0 + 2 * session.queue.length + (8 + 0) < 9 + 2 * session.queue.length
      omega
  | tokensExamined pc | urbLeased pc | urbRefused pc | urbAbsent pc | urbPresent pc | unlinked pc =>
      rw [pc]
      simp only [Pc.urbWork, refusedUrb, unlinkResponse, Option.toList_none, List.map_nil,
        List.sum_nil]
      omega
  | pinAccepted pc | pinRefused pc | issued pc | paired pc | tokenUnknown pc | tokenRefused pc
  | tokenAccepted pc | authorizedDevices pc | authorizedAttach pc | authorizedDetach pc | listed pc
  | attachUnknown pc | attached pc | detached pc =>
      rw [pc] at hpc
      exact hpc.elim

theorem Task.Serves.advance_work {task : Task} {reached : Session} {server : ServerState}
    {io : TaskIo} {pc : TaskPc} (h : task.Serves asked token)
    (taken : task.advance server io = some pc) (reach : task.reach session = some reached) :
    pc.urbWork + reached.urbWork < task.pc.urbWork + session.urbWork := by
  obtain ⟨home, urb, presence, owner, stage⟩ := task
  cases stage with
  | start =>
      cases reach
      dsimp only [Task.advance] at taken
      split at taken
      · split at taken <;> cases taken <;> exact Nat.add_lt_add_right (by simp [TaskPc.urbWork]) _
      · cases taken
        exact Nat.add_lt_add_right (by simp [TaskPc.urbWork]) _
  | snapshot =>
      cases reach
      dsimp only [Task.advance] at taken
      split at taken <;> cases taken <;> exact Nat.add_lt_add_right (by simp [TaskPc.urbWork]) _
  | callEmulated =>
      cases reach
      cases taken
      exact Nat.add_lt_add_right (by simp [TaskPc.urbWork]) _
  | release result =>
      cases taken
      cases reach
      exact Nat.add_lt_add_right (by simp [TaskPc.urbWork]) _
  | sending result =>
      cases taken
      dsimp only [Task.reach] at reach
      split at reach
      · cases reach
        exact Nat.add_lt_add_right (by simp [TaskPc.urbWork]) _
      · split at reach
        · cases reach
          simp only [TaskPc.urbWork, Session.urbWork, List.length_append, List.length_singleton]
          omega
        · cases reach
  | finished => cases taken
  | callCustom | inCustom | blocking | callHost | inHost | recheck => exact h.elim

/-- What a session that serves its peer does uses up work. -/
theorem World.urbWork_step (hserves : Serves asked deviceId owner token s w)
    (taken : w.step platform act = some w') (hopen' : w'.Open s) :
    w'.urbWork s + act.uses w s ≤ w.urbWork s + act.brings s := by
  obtain ⟨session, found, hsession⟩ := hserves.session
  have hself : ∀ {new : Session}, (w.sessions.set s new)[s]? = some new :=
    lookup_set_self found _
  have hother : ∀ {i : Nat} {new : Session}, i ≠ s → w'.sessions = w.sessions.set i new →
      w'.tasks = w.tasks → w'.urbWork s = w.urbWork s := by
    intro i new hne sessions tasks
    refine World.urbWork_of_same ?_ tasks
    rw [sessions, List.getElem?_set_ne hne]
  cases World.step_cases taken with
  | tick | refreshHostDevices | renewExpiredPin => exact Nat.le_refl _
  | accept =>
      refine Nat.le_of_eq (World.urbWork_of_same ?_ rfl)
      exact List.getElem?_append_left (List.getElem?_eq_some_iff.mp found).1
  | @recv i old msg hfound pc =>
      by_cases hi : i = s
      · subst hi
        obtain rfl : session = old := Option.some.inj (found.symm.trans hfound)
        rw [World.urbWork_of_found hself, World.urbWork_of_found found, Action.brings, if_pos rfl,
          Session.urbWork, Session.urbWork, Session.dispatch_queue, pc]
        have hpc : ∀ pc : Pc, pc.urbWork ≤ 12 := by
          intro pc
          unfold Pc.urbWork
          split <;> decide
        have hbound := hpc (session.dispatch platform w.server msg).pc
        have hnone : Pc.reading.urbWork = 0 := rfl
        simp only [Action.uses, World.setSession, hnone]
        omega
      · rw [hother hi rfl rfl, Action.brings, if_neg hi]
        exact Nat.le_refl _
  | @eof i old hfound pc =>
      by_cases hi : i = s
      · subst hi
        exact absurd rfl (hopen'.of_set hfound rfl).2
      · exact Nat.le_of_eq (hother hi rfl rfl)
  | @advance i old draw outcome hfound htaken =>
      have hentered := Session.advance_cases htaken
      by_cases hi : i = s
      · subst hi
        obtain rfl : session = old := Option.some.inj (found.symm.trans hfound)
        have hwork := hsession.advance_work hentered
        rw [World.urbWork_of_found hself, World.urbWork_of_found found, Action.uses, if_pos rfl]
        simp only [List.map_append, List.sum_append, Action.brings]
        omega
      · have hspawned : (outcome.spawned.toList.map (Task.urbWork s)).sum = 0 := by
          rcases hentered.slots with ⟨hnone, -⟩ | ⟨urb, presence, owner', hsome, -⟩
          · rw [hnone]
            rfl
          · rw [hsome]
            simp [Task.urbWork, hi]
        have hfound' : (w.sessions.set i outcome.session)[s]? = some session :=
          (List.getElem?_set_ne hi).trans found
        rw [World.urbWork_of_found hfound', World.urbWork_of_found found, Action.uses, if_neg hi]
        simp only [List.map_append, List.sum_append, hspawned, Action.brings]
        omega
  | @write i old msg queue pc hfound joining head kept =>
      by_cases hi : i = s
      · subst hi
        obtain rfl : session = old := Option.some.inj (found.symm.trans hfound)
        rcases kept with rfl | rfl
        · rw [World.urbWork_of_found hself, World.urbWork_of_found found, Action.uses, if_pos rfl,
            Session.urbWork, Session.urbWork, head, List.length_cons]
          simp only [World.setSession, Action.brings]
          omega
        · have hjoining := (hopen'.of_set found rfl).1
          cases hjoining
      · rw [hother hi rfl rfl, Action.uses, if_neg hi]
        exact Nat.le_refl _
  | @fail i old hfound | @joined i old hfound | @release i old hfound =>
      by_cases hi : i = s
      · subst hi
        have hjoining := (hopen'.of_set hfound rfl).1
        cases hjoining
      · exact Nat.le_of_eq (hother hi rfl rfl)
  | @task index task old reached io pc hfound home htaken reach =>
      have hsum := sum_map_set (Task.urbWork s) hfound { task with pc }
      simp only [Action.uses, hfound, Action.brings]
      by_cases hi : task.session = s
      · obtain rfl : session = old := by
          rw [hi] at home
          exact Option.some.inj (found.symm.trans home)
        have hwork := (hserves.tasks task (List.mem_of_getElem? hfound) hi).advance_work htaken reach
        have hself' : (w.sessions.set task.session reached)[s]? = some reached := by
          rw [hi]
          exact hself
        rw [World.urbWork_of_found hself', World.urbWork_of_found found, if_pos hi]
        simp only [Task.urbWork, if_pos hi] at hsum ⊢
        omega
      · have hfound' : (w.sessions.set task.session reached)[s]? = some session :=
          (List.getElem?_set_ne hi).trans found
        rw [World.urbWork_of_found hfound', World.urbWork_of_found found, if_neg hi]
        simp only [Task.urbWork, if_neg hi] at hsum ⊢
        omega

end

/-! ## A session does not get stuck -/

section

variable {platform : Platform} {asked : UrbSubmit → Prop} {deviceId : DeviceId}
  {owner : PeerFingerprint} {token : PresenceToken} {s : Nat} {w w' : World} {session : Session}

theorem Task.Serves.advances {task : Task} (h : task.Serves asked token)
    (unfinished : task.pc ≠ .finished) (server : ServerState) (io : TaskIo) :
    ∃ pc, task.advance server io = some pc := by
  obtain ⟨home, urb, presence, owner, stage⟩ := task
  cases stage with
  | start =>
      dsimp only [Task.advance]
      split
      · split <;> exact ⟨_, rfl⟩
      · exact ⟨_, rfl⟩
  | snapshot =>
      dsimp only [Task.advance]
      split <;> exact ⟨_, rfl⟩
  | callEmulated | release | sending => exact ⟨_, rfl⟩
  | finished => exact absurd rfl unfinished
  | callCustom | inCustom | blocking | callHost | inHost | recheck => exact h.elim

theorem Task.reaches (task : Task) (room : session.queue.length < OUT_QUEUE) :
    ∃ reached, task.reach session = some reached := by
  unfold Task.reach
  split
  · exact ⟨_, rfl⟩
  · split
    · exact ⟨_, rfl⟩
    · rw [if_pos room]
      exact ⟨_, rfl⟩
  · exact ⟨_, rfl⟩

theorem Session.Serves.advances (h : session.Serves asked deviceId owner token)
    (busy : session.pc ≠ .reading) (room : session.queue.length < OUT_QUEUE)
    (free : 0 < session.slots) (now : Instant) (draw : Draw) (server : ServerState) :
    ∃ outcome, session.advance platform now draw server s = some outcome := by
  have hpc := h.pc
  unfold Session.advance
  cases hcase : session.pc with
  | reading => exact absurd hcase busy
  | replying msg =>
      dsimp only
      rw [if_pos room]
      exact ⟨_, rfl⟩
  | urbTokens urb owner' => exact ⟨_, rfl⟩
  | urbLease urb owner' active =>
      dsimp only
      split <;> exact ⟨_, rfl⟩
  | urbPresence urb owner' =>
      dsimp only
      split <;> exact ⟨_, rfl⟩
  | urbSlot urb owner' presence =>
      dsimp only
      rw [if_pos free]
      exact ⟨_, rfl⟩
  | unlinkLease unlink owner' => exact ⟨_, rfl⟩
  | pairing | issuing | paired | authorizing | authorized | listing | attaching | detaching
  | draining | closing | ended =>
      rw [hcase] at hpc
      exact hpc.elim

/-- Without tasks the session has all its permits. -/
theorem Permits.free (h : Permits w) (found : w.sessions[s]? = some session)
    (hfinished : ∀ task ∈ w.tasks, task.session = s → task.pc = .finished) : 0 < session.slots := by
  have hnone : w.tasks.countP (Task.holdsPermit s) = 0 := by
    rw [List.countP_eq_zero]
    intro task mem hholds
    simp only [Task.holdsPermit, Bool.and_eq_true, decide_eq_true_eq] at hholds
    rw [hfinished task mem hholds.1] at hholds
    cases hholds.2
  have hconserved := h.conserved s session found
  rw [hnone] at hconserved
  have hmax : 0 < MAX_IN_FLIGHT_URBS := by decide
  omega

/-- Once its writer has emptied the queue, a session that serves its peer goes on until all
is dealt with. -/
theorem Serves.goes_on (h : Serves asked deviceId owner token s w) (hpermits : Permits w)
    (hempty : w.queue s = []) :
    w.Settled s ∨ ∃ act, 0 < act.uses w s ∧ act.onLink s = false ∧
      (w.step platform act).isSome = true := by
  obtain ⟨session, found, hsession⟩ := h.session
  have hqueue : session.queue = [] := by rw [← World.queue_of_found found, hempty]
  have room : session.queue.length < OUT_QUEUE := by
    rw [hqueue]
    decide
  by_cases hfinished : ∀ task ∈ w.tasks, task.session = s → task.pc = .finished
  · by_cases hreading : session.pc = .reading
    · refine .inl ⟨hfinished, ?_⟩
      intro session' mem
      rw [found] at mem
      cases mem
      rw [hreading]
      rfl
    · have draw : Draw := ⟨0, zeroToken⟩
      obtain ⟨outcome, hadvance⟩ :
          ∃ outcome, session.advance platform w.now draw w.server s = some outcome :=
        hsession.advances hreading room (hpermits.free found hfinished) _ _ _
      refine .inr ⟨.advance s draw, ?_, rfl, ?_⟩
      · rw [Action.uses, if_pos rfl]
        exact Nat.one_pos
      · simp only [World.step, found, Option.bind_eq_bind, Option.bind_some, hadvance]
        rfl
  · simp only [not_forall] at hfinished
    obtain ⟨task, mem, home, unfinished⟩ := hfinished
    obtain ⟨index, hindex⟩ := List.getElem?_of_mem mem
    have io : TaskIo := ⟨failedUrb 0, ⟨false, none, none, false⟩, false⟩
    obtain ⟨pc, hadvance⟩ := (h.tasks task mem home).advances unfinished w.server io
    obtain ⟨reached, hreach⟩ := task.reaches room
    refine .inr ⟨.task index io, ?_, rfl, ?_⟩
    · simp only [Action.uses, hindex, home, if_true]
      exact Nat.one_pos
    · simp only [World.step, World.stepTask, hindex, home, found, Option.bind_eq_bind,
        Option.bind_some, hadvance, hreach]
      rfl

end

end FarBus.Core
