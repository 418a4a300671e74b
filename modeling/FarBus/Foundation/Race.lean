/-
  Foundation/Race.lean --- tasks that finish at times of their own, and someone who takes
  them as they finish.

  The order in which they are taken is known up to ties: no task is taken before one
  that finished earlier.  What can be said of the first to bring something, and of the
  last of all, does not depend on how ties are broken.
-/
import Mathlib.Data.List.Basic

set_option autoImplicit false

namespace FarBus.Foundation

universe u v

variable {α : Type u} {β : Type v}

/-- An order in which tasks may be taken as they finish. -/
structure Finishes (time : α → Nat) (tasks joined : List α) : Prop where
  perm : joined.Perm tasks
  sorted : joined.Pairwise fun task later => time task ≤ time later

namespace Finishes

variable {time : α → Nat} {tasks joined : List α} {brings : α → Option β}

theorem mem_iff (h : Finishes time tasks joined) {task : α} : task ∈ joined ↔ task ∈ tasks :=
  h.perm.mem_iff

/-- The first that is taken of those that bring something finished no later than any of
them. -/
theorem first (h : Finishes time tasks joined) {brought : β}
    (hfirst : joined.findSome? brings = some brought) :
    ∃ task ∈ tasks, brings task = some brought ∧
      ∀ other ∈ tasks, brings other ≠ none → time task ≤ time other := by
  obtain ⟨before, task, after, rfl, hbrings, hbefore⟩ := List.findSome?_eq_some_iff.mp hfirst
  refine ⟨task, h.mem_iff.mp (by simp), hbrings, ?_⟩
  intro other mem hother
  rcases List.mem_append.mp (h.mem_iff.mpr mem) with hmem | hmem
  · exact absurd (hbefore other hmem) hother
  · rcases List.mem_cons.mp hmem with rfl | hmem
    · exact Nat.le_refl _
    · exact List.rel_of_pairwise_cons (List.pairwise_append.mp h.sorted).2.1 hmem

theorem exists_first_iff (h : Finishes time tasks joined) :
    (∃ brought, joined.findSome? brings = some brought) ↔ ∃ task ∈ tasks, brings task ≠ none := by
  rw [← Option.isSome_iff_exists, List.findSome?_isSome_iff]
  constructor
  · rintro ⟨task, mem, hbrings⟩
    exact ⟨task, h.mem_iff.mp mem, Option.isSome_iff_ne_none.mp hbrings⟩
  · rintro ⟨task, mem, hbrings⟩
    exact ⟨task, h.mem_iff.mpr mem, Option.isSome_iff_ne_none.mpr hbrings⟩

/-- The last of those that bring something finished no earlier than any of them. -/
theorem last (h : Finishes time tasks joined) {brought : β}
    (hlast : (joined.filterMap brings).getLast? = some brought) :
    ∃ task ∈ tasks, brings task = some brought ∧
      ∀ other ∈ tasks, brings other ≠ none → time other ≤ time task := by
  have hrev : joined.reverse.findSome? brings = some brought := by
    rw [← List.head?_filterMap, List.filterMap_reverse, List.head?_reverse]
    exact hlast
  obtain ⟨after, task, before, hjoined, hbrings, hafter⟩ := List.findSome?_eq_some_iff.mp hrev
  have hmem : ∀ other, other ∈ tasks ↔ other ∈ after ++ task :: before := by
    intro other
    rw [← hjoined, List.mem_reverse, h.mem_iff]
  have hsorted : (after ++ task :: before).Pairwise fun later task => time task ≤ time later := by
    rw [← hjoined, List.pairwise_reverse]
    exact h.sorted
  refine ⟨task, (hmem task).mpr (by simp), hbrings, ?_⟩
  intro other mem hother
  rcases List.mem_append.mp ((hmem other).mp mem) with mem | mem
  · exact absurd (hafter other mem) hother
  · rcases List.mem_cons.mp mem with rfl | mem
    · exact Nat.le_refl _
    · exact List.rel_of_pairwise_cons (List.pairwise_append.mp hsorted).2.1 mem

end Finishes

end FarBus.Foundation
