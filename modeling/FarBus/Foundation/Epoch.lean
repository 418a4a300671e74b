/-
  Foundation/Epoch.lean --- a history cut into epochs.

  Some transitions end an epoch, and the next one starts a new one.  What is kept
  inside an epoch and starts afresh at each end holds of every epoch of a run: of
  the ones that have ended, and of the current one together with the state it has
  led to.
-/
import FarBus.Foundation.Transition

set_option autoImplicit false

namespace FarBus.Foundation

universe u v

section

variable {σ : Type u} {α : Type v} (Ends : Transition σ α → Prop) [DecidablePred Ends]

/-- The number of epochs that have ended, which is also the number of the current
one. -/
def epoch (history : History σ α) : Nat := history.countP fun t => decide (Ends t)

/-- The transitions of epoch `n`.  The one that ends an epoch belongs to it. -/
def during (n : Nat) : History σ α → History σ α
  | [] => []
  | t :: earlier =>
      if epoch Ends earlier = n then t :: during n earlier else during n earlier

@[simp] theorem epoch_nil : epoch Ends ([] : History σ α) = 0 := rfl

@[simp] theorem during_nil (n : Nat) : during Ends n ([] : History σ α) = [] := rfl

variable {Ends}

theorem epoch_cons_of_ends {t : Transition σ α} (h : Ends t) (earlier : History σ α) :
    epoch Ends (t :: earlier) = epoch Ends earlier + 1 :=
  List.countP_cons_of_pos (decide_eq_true h)

theorem epoch_cons_of_not_ends {t : Transition σ α} (h : ¬ Ends t) (earlier : History σ α) :
    epoch Ends (t :: earlier) = epoch Ends earlier :=
  List.countP_cons_of_neg (by simpa using h)

theorem epoch_le_cons (t : Transition σ α) (earlier : History σ α) :
    epoch Ends earlier ≤ epoch Ends (t :: earlier) :=
  (List.sublist_cons_self t earlier).countP_le

theorem during_cons_current (t : Transition σ α) (earlier : History σ α) :
    during Ends (epoch Ends earlier) (t :: earlier) =
      t :: during Ends (epoch Ends earlier) earlier :=
  if_pos rfl

theorem during_cons_other {n : Nat} {t : Transition σ α} {earlier : History σ α}
    (h : epoch Ends earlier ≠ n) : during Ends n (t :: earlier) = during Ends n earlier :=
  if_neg h

/-- An epoch that has not begun has no transitions. -/
theorem during_eq_nil_of_lt {n : Nat} {history : History σ α} (h : epoch Ends history < n) :
    during Ends n history = [] := by
  induction history with
  | nil => rfl
  | cons t earlier ih =>
      have hearlier : epoch Ends earlier < n := Nat.lt_of_le_of_lt (epoch_le_cons t earlier) h
      rw [during_cons_other (Nat.ne_of_lt hearlier), ih hearlier]

namespace Run

variable {step : σ → α → Option σ} {start state : σ} {history : History σ α}

/-- An invariant of the current epoch, and what is left of it when the epoch ends. -/
theorem epochs {Inv : History σ α → σ → Prop} {Closed : History σ α → Prop} (hstart : Inv [] start)
    (hkeep : ∀ {pre act post segment}, step pre act = some post → Inv segment pre →
      ¬ Ends ⟨pre, act, post⟩ → Inv (⟨pre, act, post⟩ :: segment) post)
    (hend : ∀ {pre act post segment}, step pre act = some post → Inv segment pre →
      Ends ⟨pre, act, post⟩ → Closed (⟨pre, act, post⟩ :: segment) ∧ Inv [] post)
    (run : Run step start history state) :
    Inv (during Ends (epoch Ends history) history) state ∧
      ∀ n < epoch Ends history, Closed (during Ends n history) := by
  induction run with
  | nil => exact ⟨hstart, fun n hn => absurd hn (Nat.not_lt_zero n)⟩
  | @snoc history pre post act run taken ih =>
      obtain ⟨hcurrent, hended⟩ := ih
      by_cases h : Ends ⟨pre, act, post⟩
      · obtain ⟨hclosed, hfresh⟩ := hend taken hcurrent h
        rw [epoch_cons_of_ends h, during_cons_other (Nat.ne_of_lt (Nat.lt_succ_self _)),
          during_eq_nil_of_lt (Nat.lt_succ_self _)]
        refine ⟨hfresh, ?_⟩
        intro n hn
        rcases Nat.lt_succ_iff_lt_or_eq.mp hn with hbefore | rfl
        · rw [during_cons_other (Nat.ne_of_gt hbefore)]
          exact hended n hbefore
        · rw [during_cons_current]
          exact hclosed
      · rw [epoch_cons_of_not_ends h, during_cons_current]
        refine ⟨hkeep taken hcurrent h, ?_⟩
        intro n hn
        rw [during_cons_other (Nat.ne_of_gt hn)]
        exact hended n hn

end Run

end

end FarBus.Foundation
