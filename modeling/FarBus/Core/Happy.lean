/-
  Core/Happy.lean --- `happy_eyeballs_connect` of `crates/farbus-core/src/happy.rs`.

  One task for each candidate, in the order of `connection_order`: it sleeps 250 ms for
  each candidate before its own, then gives `FarBusClient::connect` 1500 ms.  The tasks
  are joined as they finish, and the first client wins.

  How long a connection takes and what comes of it is given for each position; times are
  in milliseconds from the call.  The order of the joins is any in which tasks may be
  taken as they finish.
-/
import FarBus.Foundation.Race
import FarBus.Core.Client
import FarBus.Core.Path

set_option autoImplicit false

namespace FarBus.Core

open FarBus.Foundation

/-- What connecting fails with: an error of `FarBusClient::connect`, or one of the two that
are made here, `io::Error`s with kinds of their own. -/
inductive ConnectError where
  | client (err : ClientError)
  /-- `NotFound`, "no server addresses" -/
  | noServerAddresses
  /-- `TimedOut`, "connect timeout" -/
  | connectTimeout
  deriving DecidableEq, Repr

/-- What a call of `FarBusClient::connect` comes to, if nobody drops it. -/
inductive ConnectEnd (κ : Type) where
  | connected (client : κ)
  | failed (err : ClientError)
  | panicked
  deriving DecidableEq, Repr

structure ConnectCall (κ : Type) where
  /-- how long it takes -/
  takes : Nat
  ends : ConnectEnd κ
  deriving DecidableEq, Repr

/-- What `join_next` says of a task. -/
inductive TaskEnd (κ : Type) where
  | connected (client : κ)
  | failed (err : ClientError)
  /-- the timeout has elapsed -/
  | elapsed
  /-- a `JoinError` -/
  | panicked
  deriving DecidableEq, Repr

structure ConnectTask (κ : Type) where
  finished : Nat
  ends : TaskEnd κ
  deriving DecidableEq, Repr

/-- The stagger of the candidates. -/
def STAGGER_MS : Nat := 250

/-- The timeout of one connection. -/
def CONNECT_TIMEOUT_MS : Nat := 1500

section

variable {κ : Type}

/-- The task of the candidate at position `i`.  `timeout` looks at the connection before it
looks at its timer; a connection that is never done is `none`. -/
def connectTask (i : Nat) : Option (ConnectCall κ) → ConnectTask κ
  | none => ⟨STAGGER_MS * i + CONNECT_TIMEOUT_MS, .elapsed⟩
  | some call =>
      if call.takes ≤ CONNECT_TIMEOUT_MS then
        ⟨STAGGER_MS * i + call.takes, match call.ends with
          | .connected client => .connected client
          | .failed err => .failed err
          | .panicked => .panicked⟩
      else ⟨STAGGER_MS * i + CONNECT_TIMEOUT_MS, .elapsed⟩

/-- The tasks that are spawned, in order. -/
def connectTasks (connect : Nat → SocketAddr → Option (ConnectCall κ)) (addrs : List SocketAddr) :
    List (ConnectTask κ) :=
  (connectionOrder addrs).mapIdx fun i addr => connectTask i (connect i addr)

/-- The loop around `join_next`, with the time of the last join. -/
def joinLoop : Nat → Option ConnectError → List (ConnectTask κ) → Except ConnectError κ × Nat
  | now, last, [] => (.error (last.getD (.client .tls)), now)
  | _, last, task :: joined =>
      match task.ends with
      | .connected client => (.ok client, task.finished)
      | .failed err => joinLoop task.finished (some (.client err)) joined
      | .elapsed => joinLoop task.finished (some .connectTimeout) joined
      | .panicked => joinLoop task.finished last joined

/-- `happy_eyeballs_connect`, and when it returns. -/
def happyEyeballsConnect (addrs : List SocketAddr) (joined : List (ConnectTask κ)) :
    Except ConnectError κ × Nat :=
  if (connectionOrder addrs).isEmpty then (.error .noServerAddresses, 0)
  else joinLoop 0 none joined

/-! ## The loop -/

namespace ConnectTask

/-- The client a task brings, and when. -/
def brings (task : ConnectTask κ) : Option (κ × Nat) :=
  match task.ends with
  | .connected client => some (client, task.finished)
  | .failed _ | .elapsed | .panicked => none

/-- The error a task leaves. -/
def failure (task : ConnectTask κ) : Option ConnectError :=
  match task.ends with
  | .connected _ | .panicked => none
  | .failed err => some (.client err)
  | .elapsed => some .connectTimeout

end ConnectTask

theorem joinLoop_eq (now : Nat) (last : Option ConnectError) (joined : List (ConnectTask κ)) :
    joinLoop now last joined =
      match joined.findSome? ConnectTask.brings with
      | some (client, time) => (.ok client, time)
      | none =>
          (.error (((joined.filterMap ConnectTask.failure).getLast?.or last).getD (.client .tls)),
            (joined.getLast?.map ConnectTask.finished).getD now) := by
  induction joined generalizing now last with
  | nil => rfl
  | cons task joined ih =>
      rcases task with ⟨finished, client | err | _ | _⟩
      · rfl
      all_goals
        simp only [joinLoop]
        rw [ih, List.findSome?_cons, List.filterMap_cons]
        simp only [ConnectTask.brings, ConnectTask.failure, List.getLast?_cons]
        cases joined.findSome? ConnectTask.brings with
        | some brought => rfl
        | none =>
            cases (joined.filterMap ConnectTask.failure).getLast? <;>
              cases joined.getLast? <;> rfl

/-! ## The tasks -/

variable {connect : Nat → SocketAddr → Option (ConnectCall κ)} {addrs : List SocketAddr}
  {joined : List (ConnectTask κ)}

/-- The connection at a position is there in time. -/
def ConnectsAt (connect : Nat → SocketAddr → Option (ConnectCall κ)) (addrs : List SocketAddr)
    (i : Nat) (client : κ) (takes : Nat) : Prop :=
  takes ≤ CONNECT_TIMEOUT_MS ∧ ∃ addr, (connectionOrder addrs)[i]? = some addr ∧
    connect i addr = some ⟨takes, .connected client⟩

theorem mem_connectTasks_iff {task : ConnectTask κ} :
    task ∈ connectTasks connect addrs ↔
      ∃ i addr, (connectionOrder addrs)[i]? = some addr ∧ connectTask i (connect i addr) = task := by
  unfold connectTasks
  rw [List.mem_iff_getElem?]
  simp only [List.getElem?_mapIdx, Option.map_eq_some_iff]

theorem connectTask_brings {i : Nat} {call : Option (ConnectCall κ)} {client : κ} {time : Nat} :
    (connectTask i call).brings = some (client, time) ↔
      ∃ takes, takes ≤ CONNECT_TIMEOUT_MS ∧ call = some ⟨takes, .connected client⟩ ∧
        time = STAGGER_MS * i + takes := by
  unfold connectTask
  split
  · simp [ConnectTask.brings]
  · rename_i call
    obtain ⟨takes, ends⟩ := call
    split
    · rename_i hintime
      cases ends with
      | connected client' =>
          simp only [ConnectTask.brings, Option.some.injEq, Prod.mk.injEq, ConnectCall.mk.injEq,
            ConnectEnd.connected.injEq]
          constructor
          · rintro ⟨rfl, rfl⟩
            exact ⟨takes, hintime, ⟨rfl, rfl⟩, rfl⟩
          · rintro ⟨_, -, ⟨rfl, rfl⟩, rfl⟩
            exact ⟨rfl, rfl⟩
      | failed err => simp [ConnectTask.brings]
      | panicked => simp [ConnectTask.brings]
    · rename_i hlate
      simp only [ConnectTask.brings, reduceCtorEq, false_iff, not_exists, not_and,
        Option.some.injEq, ConnectCall.mk.injEq]
      rintro takes' hintime ⟨rfl, -⟩
      exact absurd hintime hlate

theorem finished_le {i : Nat} (call : Option (ConnectCall κ)) :
    (connectTask i call).finished ≤ STAGGER_MS * i + CONNECT_TIMEOUT_MS := by
  unfold connectTask
  split
  · exact Nat.le_refl _
  · split
    · rename_i hintime
      exact Nat.add_le_add_left hintime _
    · exact Nat.le_refl _

/-- The tasks that bring a client are those whose connection is there in time. -/
theorem exists_brings_iff {client : κ} {time : Nat} :
    (∃ task ∈ connectTasks connect addrs, task.brings = some (client, time)) ↔
      ∃ i takes, ConnectsAt connect addrs i client takes ∧ time = STAGGER_MS * i + takes := by
  constructor
  · rintro ⟨task, mem, hbrings⟩
    obtain ⟨i, addr, haddr, rfl⟩ := mem_connectTasks_iff.mp mem
    obtain ⟨takes, hintime, hcall, rfl⟩ := connectTask_brings.mp hbrings
    exact ⟨i, takes, ⟨hintime, addr, haddr, hcall⟩, rfl⟩
  · rintro ⟨i, takes, ⟨hintime, addr, haddr, hcall⟩, rfl⟩
    exact ⟨_, mem_connectTasks_iff.mpr ⟨i, addr, haddr, rfl⟩,
      connectTask_brings.mpr ⟨takes, hintime, hcall, rfl⟩⟩

theorem finished_of_brings {task : ConnectTask κ} {client : κ} {time : Nat}
    (h : task.brings = some (client, time)) : time = task.finished := by
  unfold ConnectTask.brings at h
  split at h
  · cases h
    rfl
  · cases h
  · cases h
  · cases h

theorem connectTasks_eq_nil_iff :
    connectTasks connect addrs = [] ↔ connectionOrder addrs = [] := by
  unfold connectTasks
  rw [List.mapIdx_eq_nil_iff]

/-- The client that is returned is the first that a task brings. -/
theorem happyEyeballsConnect_eq_ok_iff
    (h : Finishes ConnectTask.finished (connectTasks connect addrs) joined) {client : κ}
    {time : Nat} : happyEyeballsConnect addrs joined = (.ok client, time) ↔
      joined.findSome? ConnectTask.brings = some (client, time) := by
  unfold happyEyeballsConnect
  split
  · rename_i hempty
    have hnone := h.perm
    rw [connectTasks_eq_nil_iff.mpr (List.isEmpty_iff.mp hempty), List.perm_nil] at hnone
    simp [hnone]
  · rw [joinLoop_eq]
    cases joined.findSome? ConnectTask.brings with
    | none => simp
    | some brought =>
        obtain ⟨client', time'⟩ := brought
        simp

theorem exists_of_returned {client : κ}
    (h : (happyEyeballsConnect addrs joined).1 = .ok client) :
    happyEyeballsConnect addrs joined = (.ok client, (happyEyeballsConnect addrs joined).2) :=
  Prod.ext h rfl

/-- What is returned is there no later than what any candidate brings. -/
theorem connectsAt_of_returned
    (h : Finishes ConnectTask.finished (connectTasks connect addrs) joined) {client : κ}
    {time : Nat} (returned : happyEyeballsConnect addrs joined = (.ok client, time)) :
    ∃ i takes, ConnectsAt connect addrs i client takes ∧ time = STAGGER_MS * i + takes ∧
      ∀ i' client' takes', ConnectsAt connect addrs i' client' takes' →
        time ≤ STAGGER_MS * i' + takes' := by
  obtain ⟨task, mem, hbrings, hfirst⟩ :=
    h.first ((happyEyeballsConnect_eq_ok_iff h).mp returned)
  obtain ⟨i, takes, hconnects, htime⟩ := exists_brings_iff.mp ⟨task, mem, hbrings⟩
  refine ⟨i, takes, hconnects, htime, ?_⟩
  intro i' client' takes' hconnects'
  obtain ⟨other, mem', hbrings'⟩ := exists_brings_iff.mpr ⟨i', takes', hconnects', rfl⟩
  have hle := hfirst other mem' (by simp [hbrings'])
  rwa [← finished_of_brings hbrings, ← finished_of_brings hbrings'] at hle

/-- A client is returned if and only if some candidate connects within its timeout.  It is
one whose connection, counted from the call, was there first, and it is returned then;
so the first candidate wins with 250 ms to itself. -/
theorem happyEyeballsConnect_connects
    (h : Finishes ConnectTask.finished (connectTasks connect addrs) joined) :
    ((∃ client time, happyEyeballsConnect addrs joined = (.ok client, time)) ↔
      ∃ i client takes, ConnectsAt connect addrs i client takes) ∧
    (∀ client time, happyEyeballsConnect addrs joined = (.ok client, time) →
      ∃ i takes, ConnectsAt connect addrs i client takes ∧ time = STAGGER_MS * i + takes ∧
        ∀ i' client' takes', ConnectsAt connect addrs i' client' takes' →
          time ≤ STAGGER_MS * i' + takes') ∧
    ∀ client takes, ConnectsAt connect addrs 0 client takes → takes < STAGGER_MS →
      happyEyeballsConnect addrs joined = (.ok client, takes) := by
  have hreturns : (∃ client time, happyEyeballsConnect addrs joined = (.ok client, time)) ↔
      ∃ i client takes, ConnectsAt connect addrs i client takes := by
    constructor
    · rintro ⟨client, time, returned⟩
      obtain ⟨i, takes, hconnects, -⟩ := connectsAt_of_returned h returned
      exact ⟨i, client, takes, hconnects⟩
    · rintro ⟨i, client, takes, hconnects⟩
      obtain ⟨task, mem, hbrings⟩ := exists_brings_iff.mpr ⟨i, takes, hconnects, rfl⟩
      have hbrings' : task.brings ≠ none := by simp [hbrings]
      obtain ⟨⟨client', time⟩, hfirst⟩ := h.exists_first_iff.mpr ⟨task, mem, hbrings'⟩
      exact ⟨client', time, (happyEyeballsConnect_eq_ok_iff h).mpr hfirst⟩
  refine ⟨hreturns, fun client time => connectsAt_of_returned h, ?_⟩
  intro client takes hconnects halone
  obtain ⟨client', time, returned⟩ := hreturns.mpr ⟨0, client, takes, hconnects⟩
  obtain ⟨i, takes', hconnects', rfl, hfirst⟩ := connectsAt_of_returned h returned
  have hle := hfirst 0 client takes hconnects
  -- a later candidate has not even begun
  obtain rfl : i = 0 := by
    unfold STAGGER_MS at hle halone
    omega
  obtain ⟨-, addr, haddr, hcall⟩ := hconnects
  obtain ⟨-, addr', haddr', hcall'⟩ := hconnects'
  obtain rfl : addr = addr' := Option.some.inj (haddr.symm.trans haddr')
  rw [hcall] at hcall'
  cases hcall'
  rw [returned]
  simp

/-- A candidate that never answers, in front of one that does: the second wins. -/
theorem happyEyeballsConnect_connects_second :
    let addrs : List SocketAddr := [.v4 LOCALHOST 7420, .v6 #v[0, 0, 0, 0, 0, 0, 0, 1] 7420 0 0]
    let joined : List (ConnectTask String) := [⟨350, .connected "farbus"⟩, ⟨1500, .elapsed⟩]
    (∃ client time, happyEyeballsConnect addrs joined = (.ok client, time)) ∧
      happyEyeballsConnect addrs joined = (.ok "farbus", 350) := by
  intro addrs joined
  let connect : Nat → SocketAddr → Option (ConnectCall String) := fun i _ =>
    if i = 0 then none else some ⟨100, .connected "farbus"⟩
  have h : Finishes ConnectTask.finished (connectTasks connect addrs) joined :=
    ⟨by decide, by decide⟩
  exact ⟨(happyEyeballsConnect_connects h).1.mpr ⟨1, "farbus", 100, by decide, _, rfl, rfl⟩, by decide⟩

/-- The time by which every task is done. -/
def deadline (addrs : List SocketAddr) : Nat :=
  STAGGER_MS * ((connectionOrder addrs).length - 1) + CONNECT_TIMEOUT_MS

theorem position_le_deadline {i : Nat} {addr : SocketAddr}
    (haddr : (connectionOrder addrs)[i]? = some addr) :
    STAGGER_MS * i + CONNECT_TIMEOUT_MS ≤ deadline addrs := by
  have hi : i < (connectionOrder addrs).length := (List.getElem?_eq_some_iff.mp haddr).1
  exact Nat.add_le_add_right (Nat.mul_le_mul_left _ (by omega)) _

theorem finished_le_deadline {task : ConnectTask κ} (mem : task ∈ connectTasks connect addrs) :
    task.finished ≤ deadline addrs := by
  obtain ⟨i, addr, haddr, rfl⟩ := mem_connectTasks_iff.mp mem
  exact Nat.le_trans (finished_le _) (position_le_deadline haddr)

/-- The error and the time of a call that returned no client. -/
theorem of_returned_error
    (h : Finishes ConnectTask.finished (connectTasks connect addrs) joined) {err : ConnectError}
    {time : Nat} (returned : happyEyeballsConnect addrs joined = (.error err, time)) :
    connectionOrder addrs = [] ∧ err = .noServerAddresses ∧ time = 0 ∨
      (∃ last, joined.getLast? = some last ∧ time = last.finished) ∧
        err = ((joined.filterMap ConnectTask.failure).getLast?).getD (.client .tls) := by
  unfold happyEyeballsConnect at returned
  split at returned
  · rename_i hempty
    cases returned
    exact .inl ⟨List.isEmpty_iff.mp hempty, rfl, rfl⟩
  · rename_i hnonempty
    have hjoined : joined ≠ [] := by
      rintro rfl
      exact hnonempty (List.isEmpty_iff.mpr (connectTasks_eq_nil_iff.mp (List.nil_perm.mp h.perm)))
    rw [joinLoop_eq] at returned
    split at returned
    · cases returned
    · have hlast := List.getLast?_eq_some_getLast hjoined
      rw [hlast, Option.or_none] at returned
      cases returned
      exact .inr ⟨⟨joined.getLast hjoined, hlast, rfl⟩, rfl⟩

theorem returned_le_deadline
    (h : Finishes ConnectTask.finished (connectTasks connect addrs) joined) :
    (happyEyeballsConnect addrs joined).2 ≤ deadline addrs := by
  cases hreturned : happyEyeballsConnect addrs joined with
  | mk result time =>
      cases result with
      | ok client =>
          obtain ⟨i, takes, ⟨hintime, addr, haddr, -⟩, rfl, -⟩ := connectsAt_of_returned h hreturned
          exact Nat.le_trans (Nat.add_le_add_left hintime _) (position_le_deadline haddr)
      | error err =>
          rcases of_returned_error h hreturned with ⟨-, -, rfl⟩ | ⟨⟨last, hlast, rfl⟩, -⟩
          · exact Nat.zero_le _
          · exact finished_le_deadline (h.mem_iff.mp (List.mem_of_getLast? hlast))

/-- Where nobody connects, the function has waited for every candidate: it returns when the
last of them is done, with the error of one that failed last; a task that panicked has
none.  With or without a client it returns within 250 ms for each candidate but the first,
and 1500 ms. -/
theorem happyEyeballsConnect_fails
    (h : Finishes ConnectTask.finished (connectTasks connect addrs) joined) :
    (happyEyeballsConnect addrs joined).2 ≤ deadline addrs ∧
    ∀ err time, happyEyeballsConnect addrs joined = (.error err, time) →
      (∀ task ∈ connectTasks connect addrs, task.finished ≤ time) ∧
      (connectionOrder addrs = [] ∧ err = .noServerAddresses ∨
        connectionOrder addrs ≠ [] ∧ err = .client .tls ∧
          (∀ task ∈ connectTasks connect addrs, task.failure = none) ∨
        ∃ task ∈ connectTasks connect addrs, task.failure = some err ∧
          ∀ other ∈ connectTasks connect addrs, other.failure ≠ none →
            other.finished ≤ task.finished) := by
  refine ⟨returned_le_deadline h, ?_⟩
  intro err time returned
  rcases of_returned_error h returned with ⟨hempty, rfl, rfl⟩ | ⟨⟨last, hlast, rfl⟩, herr⟩
  · rw [connectTasks_eq_nil_iff.mpr hempty]
    exact ⟨nofun, .inl ⟨hempty, rfl⟩⟩
  have hlatest : ∀ task ∈ connectTasks connect addrs, task.finished ≤ last.finished := by
    obtain ⟨task, -, htask, hlatest⟩ := h.last ((List.filterMap_some ▸ hlast :
      (joined.filterMap some).getLast? = some last))
    cases htask
    exact fun other mem => hlatest other mem nofun
  refine ⟨hlatest, .inr ?_⟩
  cases hfailure : (joined.filterMap ConnectTask.failure).getLast? with
  | none =>
      have hnonempty : connectionOrder addrs ≠ [] := fun hempty => by
        have mem := h.mem_iff.mp (List.mem_of_getLast? hlast)
        rw [connectTasks_eq_nil_iff.mpr hempty] at mem
        cases mem
      rw [hfailure] at herr
      have hpanicked := List.filterMap_eq_nil_iff.mp (List.getLast?_eq_none_iff.mp hfailure)
      exact .inl ⟨hnonempty, herr, fun task mem => hpanicked task (h.mem_iff.mpr mem)⟩
  | some failure =>
      rw [hfailure] at herr
      obtain rfl : err = failure := herr
      exact .inr (h.last hfailure)

/-- The timeout of the first candidate is longer than the refusal of the second. -/
theorem happyEyeballsConnect_fails_late :
    let addrs : List SocketAddr := [.v4 LOCALHOST 7420, .v4 LOCALHOST 7421]
    let joined : List (ConnectTask String) := [⟨251, .failed .tls⟩, ⟨1500, .elapsed⟩]
    happyEyeballsConnect addrs joined = (.error .connectTimeout, 1500) ∧
      (happyEyeballsConnect addrs joined).2 ≤ deadline addrs := by
  intro addrs joined
  let connect : Nat → SocketAddr → Option (ConnectCall String) := fun i _ =>
    if i = 0 then none else some ⟨1, .failed .tls⟩
  have h : Finishes ConnectTask.finished (connectTasks connect addrs) joined :=
    ⟨by decide, by decide⟩
  exact ⟨by decide, (happyEyeballsConnect_fails h).1⟩

end

end FarBus.Core
