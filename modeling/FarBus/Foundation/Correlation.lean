/-
  Foundation/Correlation.lean --- replies that find their requests by a key.

  Requests are sent with a key, a table says who waits under which key, and a reply is
  given to whoever its key finds.  `Correlated` relates the three views of such a
  system: who waits, the table, and what is in transit, requests and replies alike.
  It is kept as long as no key is sent again while somebody still waits under it,
  and then a reply finds the one it is for.
-/
import Mathlib.Data.List.Basic

set_option autoImplicit false

namespace FarBus.Foundation

universe u v

section

variable {κ : Type u} {ι : Type v} {waiting waiting' : ι → κ → Prop}
  {pending pending' : κ → Option ι} {transit transit' : List (κ × ι)} {key : κ} {id : ι}

/-- The table holds exactly those who wait; what is in transit is for one of them, and
no two are under one key. -/
structure Correlated (waiting : ι → κ → Prop) (pending : κ → Option ι) (transit : List (κ × ι)) :
    Prop where
  pending_iff : ∀ key id, pending key = some id ↔ waiting id key
  registered : ∀ entry ∈ transit, pending entry.1 = some entry.2
  distinct : (transit.map Prod.fst).Nodup

namespace Correlated

/-- Nobody waits and nothing is in transit. -/
theorem empty (hpending : ∀ key, pending key = none) (hwaiting : ∀ id key, ¬ waiting id key) :
    Correlated waiting pending [] where
  pending_iff key id := by
    rw [hpending]
    simp only [reduceCtorEq, false_iff]
    exact hwaiting id key
  registered := by simp
  distinct := List.nodup_nil

/-- What is in transit moves along. -/
theorem perm (h : Correlated waiting pending transit) (moved : transit'.Perm transit) :
    Correlated waiting pending transit' where
  pending_iff := h.pending_iff
  registered entry mem := h.registered entry (moved.mem_iff.mp mem)
  distinct := (moved.map Prod.fst).nodup_iff.mpr h.distinct

theorem congr (h : Correlated waiting pending transit)
    (hwaiting : ∀ id key, waiting' id key ↔ waiting id key) :
    Correlated waiting' pending transit where
  pending_iff key id := (h.pending_iff key id).trans (hwaiting id key).symm
  registered := h.registered
  distinct := h.distinct

/-- A reply finds the one it is for. -/
theorem pending_head (h : Correlated waiting pending ((key, id) :: transit)) :
    pending key = some id :=
  h.registered (key, id) List.mem_cons_self

variable [DecidableEq κ]

/-- A request is sent under a key nobody waits under. -/
theorem send (h : Correlated waiting pending transit) (fresh : pending key = none)
    (hpending : ∀ key', pending' key' = if key' = key then some id else pending key')
    (hwaiting : ∀ id' key', waiting' id' key' ↔ (id' = id ∧ key' = key) ∨ waiting id' key') :
    Correlated waiting' pending' ((key, id) :: transit) where
  pending_iff key' id' := by
    rw [hpending, hwaiting, ← h.pending_iff]
    split
    · rename_i hkey
      subst hkey
      rw [fresh]
      simp only [Option.some.injEq, and_true, reduceCtorEq, or_false]
      exact eq_comm
    · rename_i hkey
      simp only [hkey, and_false, false_or]
  registered entry mem := by
    rw [hpending]
    rcases List.mem_cons.mp mem with heq | mem
    · rw [heq, if_pos rfl]
    · rw [if_neg, h.registered entry mem]
      intro hkey
      have hregistered := h.registered entry mem
      rw [hkey, fresh] at hregistered
      cases hregistered
  distinct := by
    rw [List.map_cons, List.nodup_cons]
    refine ⟨?_, h.distinct⟩
    intro mem
    obtain ⟨entry, mem, hkey⟩ := List.mem_map.mp mem
    have hregistered := h.registered entry mem
    dsimp only at hkey
    rw [hkey, fresh] at hregistered
    cases hregistered

/-- A reply is given to the one it is for. -/
theorem reply (h : Correlated waiting pending ((key, id) :: transit))
    (hpending : ∀ key', pending' key' = if key' = key then none else pending key')
    (hwaiting : ∀ id' key', waiting' id' key' ↔ waiting id' key' ∧ key' ≠ key) :
    Correlated waiting' pending' transit where
  pending_iff key' id' := by
    rw [hpending, hwaiting, ← h.pending_iff]
    split
    · rename_i hkey
      simp only [hkey, reduceCtorEq, ne_eq, not_true_eq_false, and_false]
    · rename_i hkey
      simp only [ne_eq, hkey, not_false_eq_true, and_true]
  registered entry mem := by
    rw [hpending, if_neg, h.registered entry (List.mem_cons_of_mem _ mem)]
    intro hkey
    have hdistinct := h.distinct
    rw [List.map_cons, List.nodup_cons] at hdistinct
    exact hdistinct.1 (List.mem_map.mpr ⟨entry, mem, hkey⟩)
  distinct := by
    have hdistinct := h.distinct
    rw [List.map_cons, List.nodup_cons] at hdistinct
    exact hdistinct.2

end Correlated

end

end FarBus.Foundation
