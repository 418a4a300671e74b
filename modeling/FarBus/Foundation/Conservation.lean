/-
  Foundation/Conservation.lean --- what goes in comes out, or is still inside.

  A transition takes items in and gives items out, and a state holds some.  Where
  every single transition neither loses nor makes one, a run does not either: what
  was taken in is, up to order, what was given out and what is still held.  With
  nothing held at the end, the two are permutations of each other.
-/
import Mathlib.Algebra.GroupWithZero.Nat
import Mathlib.Data.List.Perm.Subperm
import FarBus.Foundation.Transition

set_option autoImplicit false

namespace FarBus.Foundation

universe u v w

section

variable {σ : Type u} {α : Type v} {β : Type w}

/-- What the transitions of a history contribute, oldest first. -/
def collect (f : Transition σ α → List β) : History σ α → List β
  | [] => []
  | t :: earlier => collect f earlier ++ f t

@[simp] theorem collect_nil (f : Transition σ α → List β) : collect f [] = [] := rfl

@[simp] theorem collect_cons (f : Transition σ α → List β) (t : Transition σ α)
    (earlier : History σ α) : collect f (t :: earlier) = collect f earlier ++ f t := rfl

theorem collect_append (f : Transition σ α → List β) (later earlier : History σ α) :
    collect f (later ++ earlier) = collect f earlier ++ collect f later := by
  induction later with
  | nil => simp
  | cons t later ih =>
      rw [List.cons_append, collect_cons, ih, collect_cons, List.append_assoc]

theorem collect_flatMap {γ : Type w} (f : Transition σ α → List β) (g : β → List γ)
    (history : History σ α) :
    (collect f history).flatMap g = collect (fun t => (f t).flatMap g) history := by
  induction history with
  | nil => rfl
  | cons t earlier ih => rw [collect_cons, List.flatMap_append, ih, collect_cons]

/-- What goes in comes out, or is still held. -/
theorem Run.conserved {step : σ → α → Option σ} {start state : σ} {history : History σ α}
    (run : Run step start history state) (taken given : Transition σ α → List β)
    (held : σ → List β)
    (hstep : ∀ later t earlier, history = later ++ t :: earlier → Run step start earlier t.pre →
      step t.pre t.act = some t.post → (held t.pre ++ taken t).Perm (given t ++ held t.post)) :
    (held start ++ collect taken history).Perm (collect given history ++ held state) := by
  induction run with
  | nil => simp
  | @snoc history pre post act run htaken ih =>
      have hpre := ih fun later t earlier hcut =>
        hstep (⟨pre, act, post⟩ :: later) t earlier (by rw [hcut, List.cons_append])
      have hlast := hstep [] ⟨pre, act, post⟩ history rfl run htaken
      rw [collect_cons, collect_cons, ← List.append_assoc, List.append_assoc (collect given history)]
      refine (hpre.append_right _).trans ?_
      rw [List.append_assoc]
      exact hlast.append_left _

/-- What comes out, or is still held, went in; some of that may be lost. -/
theorem Run.conserved_le {step : σ → α → Option σ} {start state : σ} {history : History σ α}
    (run : Run step start history state) (taken given : Transition σ α → List β)
    (held : σ → List β)
    (hstep : ∀ later t earlier, history = later ++ t :: earlier → Run step start earlier t.pre →
      step t.pre t.act = some t.post →
      (given t ++ held t.post).Subperm (held t.pre ++ taken t)) :
    (collect given history ++ held state).Subperm (held start ++ collect taken history) := by
  induction run with
  | nil => exact (List.Perm.of_eq (by simp)).subperm
  | @snoc history pre post act run htaken ih =>
      have hpre := ih fun later t earlier hcut =>
        hstep (⟨pre, act, post⟩ :: later) t earlier (by rw [hcut, List.cons_append])
      have hlast := hstep [] ⟨pre, act, post⟩ history rfl run htaken
      rw [collect_cons, collect_cons, ← List.append_assoc, List.append_assoc (collect given history)]
      refine ((List.subperm_append_left _).mpr hlast).trans ?_
      rw [← List.append_assoc]
      exact (List.subperm_append_right _).mpr hpre

end

/-- Replacing an element of a list replaces its contribution. -/
theorem perm_flatMap_set {α : Type u} {β : Type v} (f : α → List β) {l : List α} {i : Nat} {x : α}
    (h : l[i]? = some x) (y : α) : ((l.set i y).flatMap f ++ f x).Perm (l.flatMap f ++ f y) := by
  induction l generalizing i with
  | nil => cases h
  | cons head l ih =>
      cases i with
      | zero =>
          cases h
          rw [List.set_cons_zero, List.flatMap_cons, List.flatMap_cons, List.append_assoc,
            List.append_assoc]
          refine List.perm_append_comm.trans ?_
          rw [← List.append_assoc]
          exact List.perm_append_comm.append_right _
      | succ i =>
          rw [List.set_cons_succ, List.flatMap_cons, List.flatMap_cons, List.append_assoc,
            List.append_assoc]
          exact (ih h).append_left _

/-- The same for sums, and for counts. -/
theorem sum_map_set {α : Type u} (f : α → Nat) {items : List α} {index : Nat} {old : α}
    (found : items[index]? = some old) (new : α) :
    ((items.set index new).map f).sum + f old = (items.map f).sum + f new := by
  induction items generalizing index with
  | nil => cases found
  | cons item items ih =>
      cases index with
      | zero =>
          cases found
          simp only [List.set_cons_zero, List.map_cons, List.sum_cons]
          omega
      | succ index =>
          have hrest := ih (show items[index]? = some old from found)
          simp only [List.set_cons_succ, List.map_cons, List.sum_cons]
          omega

theorem countP_set {α : Type u} (p : α → Bool) {items : List α} {index : Nat} {old : α}
    (found : items[index]? = some old) (new : α) :
    (items.set index new).countP p + (if p old then 1 else 0) =
      items.countP p + if p new then 1 else 0 := by
  induction items generalizing index with
  | nil => cases found
  | cons item items ih =>
      cases index with
      | zero =>
          cases found
          simp only [List.set_cons_zero, List.countP_cons]
          omega
      | succ index =>
          have hrest := ih (show items[index]? = some old from found)
          simp only [List.set_cons_succ, List.countP_cons]
          omega

end FarBus.Foundation
