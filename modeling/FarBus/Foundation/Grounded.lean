/-
  Foundation/Grounded.lean --- events that mention only what is known.

  An event makes some things known and mentions others.  A queue of events is grounded if
  each of them mentions only what is known before it, be it by events ahead of it in the
  queue.
-/
import Mathlib.Data.List.Basic

set_option autoImplicit false

namespace FarBus.Foundation

universe u v

variable {ε : Type u} {κ : Type v} (learns mentions : ε → List κ)

/-- What is known after a queue of events. -/
def KnownAfter (known : κ → Prop) (events : List ε) (k : κ) : Prop :=
  known k ∨ ∃ event ∈ events, k ∈ learns event

def Grounded : (κ → Prop) → List ε → Prop
  | _, [] => True
  | known, event :: events =>
      (∀ k ∈ mentions event, known k) ∧ Grounded (KnownAfter learns known [event]) events

variable {learns mentions} {known known' : κ → Prop} {events events' : List ε}

theorem KnownAfter.mono (h : ∀ k, known k → known' k) {k : κ} (hk : KnownAfter learns known events k) :
    KnownAfter learns known' events k := hk.imp_left (h k)

theorem Grounded.mono (h : ∀ k, known k → known' k)
    (hevents : Grounded learns mentions known events) : Grounded learns mentions known' events := by
  induction events generalizing known known' with
  | nil => trivial
  | cons event events ih =>
      exact ⟨fun k mem => h k (hevents.1 k mem), ih (fun _ hk => hk.mono h) hevents.2⟩

theorem knownAfter_cons_iff {event : ε} {k : κ} :
    KnownAfter learns known (event :: events) k ↔ KnownAfter learns (KnownAfter learns known [event]) events k := by
  simp [KnownAfter, or_assoc]

theorem knownAfter_append_iff {k : κ} :
    KnownAfter learns known (events ++ events') k ↔ KnownAfter learns (KnownAfter learns known events) events' k := by
  simp [KnownAfter, or_and_right, exists_or, or_assoc]

/-- A queue goes on with events that mention what is known after it. -/
theorem grounded_append_iff :
    Grounded learns mentions known (events ++ events') ↔
      Grounded learns mentions known events ∧
        Grounded learns mentions (KnownAfter learns known events) events' := by
  induction events generalizing known with
  | nil =>
      have hnil : KnownAfter learns known [] = known := by
        funext k
        simp [KnownAfter]
      rw [hnil]
      exact ⟨fun h => ⟨trivial, h⟩, fun h => h.2⟩
  | cons event events ih =>
      have hcons : KnownAfter learns known (event :: events) =
          KnownAfter learns (KnownAfter learns known [event]) events := by
        funext k
        exact propext knownAfter_cons_iff
      rw [List.cons_append, Grounded, ih, Grounded, hcons, and_assoc]

end FarBus.Foundation
