/-
  Foundation/Simulation.lean --- forward simulation.

  A run of one system shows some labels of another: each transition shows a list of
  them, none where it is a step that only the finer system knows.  When every step can
  be matched from related states by a run with the labels it shows, every run can.
-/
import FarBus.Foundation.Conservation

set_option autoImplicit false

namespace FarBus.Foundation

universe u v u' v'

section

variable {σ : Type u} {α : Type v} {τ : Type u'} {β : Type v'}

/-- The labels of a history, in order. -/
def labels (history : History σ α) : List α := collect (fun t => [t.act]) history

@[simp] theorem labels_nil : labels ([] : History σ α) = [] := rfl

@[simp] theorem labels_cons (t : Transition σ α) (earlier : History σ α) :
    labels (t :: earlier) = labels earlier ++ [t.act] := rfl

theorem labels_append (later earlier : History σ α) :
    labels (later ++ earlier) = labels earlier ++ labels later :=
  collect_append _ later earlier

variable {step : σ → α → Option σ} {step' : τ → β → Option τ} {start state : σ} {start' : τ}
  {history : History σ α}

/-- A forward simulation: a step is matched from a related state by a run that takes the
labels the step shows and ends in a related state. -/
theorem Run.simulates {R : σ → τ → Prop} {seen : Transition σ α → List β}
    (hstep : ∀ {pre act post pre'}, R pre pre' → step pre act = some post →
      ∃ history' post', Run step' pre' history' post' ∧
        labels history' = seen ⟨pre, act, post⟩ ∧ R post post')
    (hstart : R start start') (run : Run step start history state) :
    ∃ history' state', Run step' start' history' state' ∧
      labels history' = collect seen history ∧ R state state' := by
  induction run with
  | nil => exact ⟨[], start', .nil, rfl, hstart⟩
  | @snoc history pre post act run taken ih =>
      obtain ⟨earlier', pre', run', hearlier, hpre⟩ := ih
      obtain ⟨later', post', run'', hlater, hpost⟩ := hstep hpre taken
      refine ⟨later' ++ earlier', post', run'.trans run'', ?_, hpost⟩
      rw [labels_append, hearlier, hlater, collect_cons]

end

end FarBus.Foundation
