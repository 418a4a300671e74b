/-
  Foundation/Channel.lean --- a channel that keeps order and loses nothing.

  What is sent is received in that order, once.  The sender may close the channel; where
  it does so in the middle of a send, the last item is lost, and nothing else is.  After
  the last item of a closed channel the receiver finds its end.
-/
import FarBus.Foundation.Simulation

set_option autoImplicit false

namespace FarBus.Foundation

universe u

/-- A channel, with the items that were sent and not yet received. -/
structure Channel (μ : Type u) where
  inFlight : List μ := []
  closed : Bool := false

inductive ChannelEvent (μ : Type u) where
  | send (item : μ)
  | receive (item : μ)
  /-- the sender goes, in the middle of its last send if `torn` -/
  | close (torn : Bool)
  /-- the receiver finds the end of the channel -/
  | ended

namespace Channel

variable {μ : Type u}

section

variable [DecidableEq μ]

def step (self : Channel μ) : ChannelEvent μ → Option (Channel μ)
  | .send item =>
      if self.closed then none else some { self with inFlight := self.inFlight ++ [item] }
  | .receive item =>
      match self.inFlight with
      | [] => none
      | head :: rest => if head = item then some { self with inFlight := rest } else none
  | .close torn =>
      if self.closed then none
      else if torn then
        if self.inFlight = [] then none
        else some { inFlight := self.inFlight.dropLast, closed := true }
      else some { self with closed := true }
  | .ended => if self.closed ∧ self.inFlight = [] then some self else none

theorem step_send {self : Channel μ} (hopen : self.closed = false) (item : μ) :
    self.step (.send item) = some { self with inFlight := self.inFlight ++ [item] } := by
  simp [step, hopen]

theorem step_receive {self : Channel μ} {item : μ} {rest : List μ}
    (head : self.inFlight = item :: rest) :
    self.step (.receive item) = some { self with inFlight := rest } := by
  simp [step, head]

theorem step_ended {self : Channel μ} (hclosed : self.closed = true)
    (hempty : self.inFlight = []) : self.step .ended = some self := by
  simp [step, hclosed, hempty]

end

/-- The items that were sent. -/
def sent (events : List (ChannelEvent μ)) : List μ :=
  events.filterMap fun
    | .send item => some item
    | .receive _ => none
    | .close _ => none
    | .ended => none

/-- The items that were received. -/
def received (events : List (ChannelEvent μ)) : List μ :=
  events.filterMap fun
    | .send _ => none
    | .receive item => some item
    | .close _ => none
    | .ended => none

/-- Whether the sender went in the middle of a send. -/
def torn (events : List (ChannelEvent μ)) : Bool :=
  events.any fun
    | .close torn => torn
    | .send _ => false
    | .receive _ => false
    | .ended => false

theorem sent_append (events events' : List (ChannelEvent μ)) :
    sent (events ++ events') = sent events ++ sent events' := List.filterMap_append

theorem received_append (events events' : List (ChannelEvent μ)) :
    received (events ++ events') = received events ++ received events' := List.filterMap_append

theorem torn_append (events events' : List (ChannelEvent μ)) :
    torn (events ++ events') = (torn events || torn events') := List.any_append

/-- What was sent is what was received and what is in flight, but for the item that a
torn close loses. -/
structure Accounted (events : List (ChannelEvent μ)) (channel : Channel μ) : Prop where
  sent_eq : ∃ lost, sent events = received events ++ channel.inFlight ++ lost ∧
    lost.length = (torn events).toNat
  closed_of_torn : torn events = true → channel.closed = true

variable {events : List (ChannelEvent μ)} {event : ChannelEvent μ} {pre post channel : Channel μ}

theorem Accounted.lost_eq_nil (h : Accounted events channel) (hopen : channel.closed = false) :
    sent events = received events ++ channel.inFlight ∧ torn events = false := by
  have hwhole : torn events = false := Bool.eq_false_iff.mpr fun htorn => by
    rw [h.closed_of_torn htorn] at hopen
    cases hopen
  obtain ⟨lost, hsent, hlost⟩ := h.sent_eq
  rw [hwhole] at hlost
  rw [List.length_eq_zero_iff.mp hlost, List.append_nil] at hsent
  exact ⟨hsent, hwhole⟩

variable [DecidableEq μ]

theorem Accounted.step (h : Accounted events pre) (taken : pre.step event = some post) :
    Accounted (events ++ [event]) post := by
  cases event with
  | send item =>
      dsimp only [Channel.step] at taken
      split at taken
      · cases taken
      · rename_i hopen
        cases taken
        obtain ⟨hsent, hwhole⟩ := h.lost_eq_nil (Bool.eq_false_iff.mpr hopen)
        refine ⟨⟨[], ?_, ?_⟩, ?_⟩
        · rw [sent_append, received_append, hsent]
          simp [sent, received]
        · rw [torn_append, hwhole]
          rfl
        · rw [torn_append, hwhole]
          nofun
  | receive item =>
      dsimp only [Channel.step] at taken
      split at taken
      · cases taken
      · rename_i head rest hflight
        split at taken
        · rename_i hitem
          cases taken
          obtain ⟨lost, hsent, hlost⟩ := h.sent_eq
          refine ⟨⟨lost, ?_, ?_⟩, ?_⟩
          · rw [hflight, hitem] at hsent
            simpa [sent_append, received_append, sent, received] using hsent
          · simpa [torn_append, torn] using hlost
          · simpa [torn_append, torn] using h.closed_of_torn
        · cases taken
  | close tears =>
      dsimp only [Channel.step] at taken
      split at taken
      · cases taken
      · rename_i hopen
        obtain ⟨hsent, hwhole⟩ := h.lost_eq_nil (Bool.eq_false_iff.mpr hopen)
        split at taken
        · rename_i htears
          subst htears
          split at taken
          · cases taken
          · rename_i hflight
            cases taken
            refine ⟨⟨[pre.inFlight.getLast hflight], ?_, ?_⟩, fun _ => rfl⟩
            · rw [sent_append, received_append, hsent]
              simp [sent, received, List.dropLast_append_getLast]
            · rw [torn_append, hwhole]
              rfl
        · rename_i htears
          cases taken
          refine ⟨⟨[], ?_, ?_⟩, fun _ => rfl⟩
          · rw [sent_append, received_append, hsent]
            simp [sent, received]
          · rw [torn_append, hwhole, Bool.eq_false_iff.mpr htears]
            rfl
  | ended =>
      dsimp only [Channel.step] at taken
      split at taken
      · cases taken
        obtain ⟨lost, hsent, hlost⟩ := h.sent_eq
        refine ⟨⟨lost, ?_, ?_⟩, ?_⟩
        · simpa [sent_append, received_append, sent, received] using hsent
        · simpa [torn_append, torn] using hlost
        · simpa [torn_append, torn] using h.closed_of_torn
      · cases taken

/-- Whatever happened to a channel, all that was sent is accounted for. -/
theorem accounted {history : History (Channel μ) (ChannelEvent μ)}
    (run : Run step {} history channel) : Accounted (labels history) channel := by
  refine run.history_invariant (fun history channel => Accounted (labels history) channel)
    ⟨⟨[], rfl, rfl⟩, nofun⟩ ?_
  intro history pre event post _ h taken
  exact h.step taken

end Channel

end FarBus.Foundation
