/-
  Core/Connection.lean --- the lifecycle of a connection, `ConnectionMachine` of
  `crates/farbus-core/src/state.rs`.

  The machine is small; what it allows over a lifetime is stated in full by
  `connectionMachine_lifecycle`.
-/
import Mathlib.Data.List.Basic

set_option autoImplicit false

namespace FarBus.Core

inductive ConnectionState where
  | discovered
  | paired
  | attached
  | reconnecting
  deriving DecidableEq, Repr

inductive ConnectionEvent where
  | pair
  | attach
  | detach
  | connectionLost
  | reconnectSucceeded
  deriving DecidableEq, Repr

/-- `from` is a word of Lean. -/
structure TransitionError where
  source : ConnectionState
  event : ConnectionEvent
  deriving DecidableEq, Repr

structure ConnectionMachine where
  state : ConnectionState := .discovered
  deriving DecidableEq, Repr

namespace ConnectionMachine

/-- The states the events lead to. -/
def next : ConnectionState → ConnectionEvent → Except TransitionError ConnectionState
  | .discovered, .pair | .attached, .detach => .ok .paired
  | .paired, .attach | .reconnecting, .reconnectSucceeded => .ok .attached
  | .attached, .connectionLost => .ok .reconnecting
  | source, event => .error { source, event }

/-- `ConnectionMachine::apply`. -/
def apply (self : ConnectionMachine) (event : ConnectionEvent) :
    Except TransitionError Unit × ConnectionMachine :=
  match next self.state event with
  | .ok state => (.ok (), { state })
  | .error err => (.error err, self)

/-- A call of `apply`, with the events that were accepted before it. -/
def record (reached : ConnectionMachine × List ConnectionEvent) (event : ConnectionEvent) :
    ConnectionMachine × List ConnectionEvent :=
  match reached.1.apply event with
  | (.ok (), machine) => (machine, reached.2 ++ [event])
  | (.error _, machine) => (machine, reached.2)

/-- One call after the other on a new machine: what it came to, and what it accepted. -/
def applyAll (events : List ConnectionEvent) : ConnectionMachine × List ConnectionEvent :=
  events.foldl record ({}, [])

end ConnectionMachine

/-! ## Lifetimes -/

/-- The connection is lost and comes back, `n` times. -/
def losses (n : Nat) : List ConnectionEvent :=
  (List.replicate n [.connectionLost, .reconnectSucceeded]).flatten

/-- A device is attached, keeps through `n` losses, and is detached. -/
def attachment (n : Nat) : List ConnectionEvent := .attach :: losses n ++ [.detach]

/-- Pairing, then attachments one after the other, each with its losses. -/
def lifetime (attachments : List Nat) : List ConnectionEvent :=
  .pair :: attachments.flatMap attachment

/-- The events that lead to a state. -/
def Lifetime (events : List ConnectionEvent) : ConnectionState → Prop
  | .discovered => events = []
  | .paired => ∃ past, events = lifetime past
  | .attached => ∃ past n, events = lifetime past ++ .attach :: losses n
  | .reconnecting => ∃ past n, events = lifetime past ++ .attach :: losses n ++ [.connectionLost]

namespace ConnectionMachine

theorem losses_succ (n : Nat) :
    losses (n + 1) = losses n ++ [.connectionLost, .reconnectSucceeded] := by
  rw [losses, List.replicate_succ', List.flatten_append, List.flatten_singleton]
  rfl

theorem lifetime_concat (past : List Nat) (n : Nat) :
    lifetime (past ++ [n]) = lifetime past ++ attachment n := by
  simp [lifetime]

/-- An event that is accepted goes on with the lifetime. -/
theorem Lifetime.next {events : List ConnectionEvent} {state state' : ConnectionState}
    {event : ConnectionEvent} (h : Lifetime events state) (accepted : next state event = .ok state') :
    Lifetime (events ++ [event]) state' := by
  match state, event, accepted with
  | .discovered, .pair, rfl =>
      obtain rfl : events = [] := h
      exact ⟨[], rfl⟩
  | .attached, .detach, rfl =>
      obtain ⟨past, n, rfl⟩ := h
      exact ⟨past ++ [n], by simp [lifetime_concat, attachment]⟩
  | .paired, .attach, rfl =>
      obtain ⟨past, rfl⟩ := h
      exact ⟨past, 0, rfl⟩
  | .reconnecting, .reconnectSucceeded, rfl =>
      obtain ⟨past, n, rfl⟩ := h
      exact ⟨past, n + 1, by simp [losses_succ]⟩
  | .attached, .connectionLost, rfl =>
      obtain ⟨past, n, rfl⟩ := h
      exact ⟨past, n, rfl⟩

theorem lifetime_foldl (events : List ConnectionEvent)
    {reached : ConnectionMachine × List ConnectionEvent} (h : Lifetime reached.2 reached.1.state) :
    Lifetime (events.foldl record reached).2 (events.foldl record reached).1.state := by
  induction events generalizing reached with
  | nil => exact h
  | cons event events ih =>
      apply ih
      unfold record apply
      split
      · rename_i machine happly
        split at happly
        · rename_i state accepted
          cases happly
          exact Lifetime.next h accepted
        · cases happly
      · rename_i err machine happly
        split at happly
        · cases happly
        · cases happly
          exact h

variable (accepted : List ConnectionEvent)

theorem foldl_losses (n : Nat) :
    (losses n).foldl record (⟨.attached⟩, accepted) = (⟨.attached⟩, accepted ++ losses n) := by
  induction n with
  | zero => simp [losses]
  | succ n ih =>
      rw [losses_succ, List.foldl_append, ih]
      simp [record, apply, next]

theorem foldl_attach (n : Nat) :
    (ConnectionEvent.attach :: losses n).foldl record (⟨.paired⟩, accepted) =
      (⟨.attached⟩, accepted ++ .attach :: losses n) := by
  rw [List.foldl_cons, show record (⟨.paired⟩, accepted) .attach
    = (⟨.attached⟩, accepted ++ [.attach]) from rfl, foldl_losses]
  simp

theorem foldl_attachments (past : List Nat) :
    (past.flatMap attachment).foldl record (⟨.paired⟩, accepted) =
      (⟨.paired⟩, accepted ++ past.flatMap attachment) := by
  induction past generalizing accepted with
  | nil => simp
  | cons n past ih =>
      rw [List.flatMap_cons, List.foldl_append, attachment, List.foldl_append, foldl_attach,
        List.foldl_cons, List.foldl_nil, show record (⟨.attached⟩, accepted ++ .attach :: losses n)
          .detach = (⟨.paired⟩, accepted ++ .attach :: losses n ++ [.detach]) from rfl, ih]
      simp

theorem applyAll_lifetime (past : List Nat) :
    applyAll (lifetime past) = (⟨.paired⟩, lifetime past) := by
  rw [applyAll, lifetime, List.foldl_cons,
    show record ({}, []) .pair = (⟨.paired⟩, [.pair]) from rfl, foldl_attachments]
  rfl

theorem applyAll_append (events events' : List ConnectionEvent) :
    applyAll (events ++ events') = events'.foldl record (applyAll events) := List.foldl_append

/-- Whatever is asked of a machine and refused in between, what it has accepted is one
pairing, then attachments one after the other, each keeping through losses that are made
good before the next; the state says how far the last of it has got.  All such lifetimes
are accepted. -/
theorem connectionMachine_lifetime (events : List ConnectionEvent) :
    Lifetime (applyAll events).2 (applyAll events).1.state ∧
      ∀ state, Lifetime events state → applyAll events = (⟨state⟩, events) := by
  refine ⟨lifetime_foldl events rfl, ?_⟩
  intro state h
  cases state with
  | discovered =>
      obtain rfl : events = [] := h
      rfl
  | paired =>
      obtain ⟨past, rfl⟩ := h
      exact applyAll_lifetime past
  | attached =>
      obtain ⟨past, n, rfl⟩ := h
      rw [applyAll_append, applyAll_lifetime, foldl_attach]
  | reconnecting =>
      obtain ⟨past, n, rfl⟩ := h
      rw [applyAll_append, applyAll_append, applyAll_lifetime, foldl_attach]
      rfl

end ConnectionMachine

end FarBus.Core
