/-
  Foundation/KeyedList.lean --- lists of entries with a key, read as a map: the entry of a key
  is the first one that has it.  An entry goes to the place of the one with its key, or to the
  end.
-/
import Mathlib.Data.List.Nodup

set_option autoImplicit false

namespace FarBus.Foundation

universe u v

section

variable {α : Type u} {κ : Type v} [DecidableEq κ] (key : α → κ)

def entryOf (k : κ) (entries : List α) : Option α := entries.find? fun entry => key entry = k

def replaceOrPush (entry : α) : List α → List α
  | [] => [entry]
  | old :: entries =>
      if key old = key entry then entry :: entries else old :: replaceOrPush entry entries

/-- One entry after the other. -/
def replaceOrPushAll : List α → List α → List α
  | [], entries => entries
  | entry :: incoming, entries => replaceOrPushAll incoming (replaceOrPush key entry entries)

/-! ## The keys -/

theorem keys_replaceOrPush (entry : α) (entries : List α) :
    (replaceOrPush key entry entries).map key =
      if key entry ∈ entries.map key then entries.map key
      else entries.map key ++ [key entry] := by
  induction entries with
  | nil => rfl
  | cons old entries ih =>
      unfold replaceOrPush
      by_cases hkey : key old = key entry
      · rw [if_pos hkey, List.map_cons, List.map_cons, hkey, if_pos List.mem_cons_self]
      · rw [if_neg hkey, List.map_cons, ih, List.map_cons]
        have hmem : key entry ∈ key old :: entries.map key ↔ key entry ∈ entries.map key := by
          rw [List.mem_cons, or_iff_right (Ne.symm hkey)]
        simp only [hmem]
        split <;> rfl

/-- No key goes, and the keys there are keep their places. -/
theorem keys_prefix_replaceOrPush (entry : α) (entries : List α) :
    entries.map key <+: (replaceOrPush key entry entries).map key := by
  rw [keys_replaceOrPush]
  split
  · exact List.prefix_rfl
  · exact List.prefix_append _ _

theorem nodup_keys_replaceOrPush {entries : List α} (entry : α)
    (h : (entries.map key).Nodup) : ((replaceOrPush key entry entries).map key).Nodup := by
  rw [keys_replaceOrPush]
  split
  · exact h
  · rename_i hnew
    refine List.nodup_append'.mpr ⟨h, List.nodup_singleton _, ?_⟩
    rw [List.disjoint_singleton]
    exact hnew

theorem replaceOrPush_of_not_mem {entry : α} {entries : List α}
    (h : key entry ∉ entries.map key) : replaceOrPush key entry entries = entries ++ [entry] := by
  induction entries with
  | nil => rfl
  | cons old entries ih =>
      rw [List.map_cons, List.mem_cons, not_or] at h
      rw [replaceOrPush, if_neg (Ne.symm h.1), ih h.2, List.cons_append]

theorem keys_prefix_replaceOrPushAll (incoming entries : List α) :
    entries.map key <+: (replaceOrPushAll key incoming entries).map key := by
  induction incoming generalizing entries with
  | nil => exact List.prefix_rfl
  | cons entry incoming ih => exact (keys_prefix_replaceOrPush key entry entries).trans (ih _)

theorem nodup_keys_replaceOrPushAll (incoming : List α) {entries : List α}
    (h : (entries.map key).Nodup) : ((replaceOrPushAll key incoming entries).map key).Nodup := by
  induction incoming generalizing entries with
  | nil => exact h
  | cons entry incoming ih => exact ih (nodup_keys_replaceOrPush key entry h)

/-! ## The entries -/

theorem entryOf_replaceOrPush (k : κ) (entry : α) (entries : List α) :
    entryOf key k (replaceOrPush key entry entries) =
      if key entry = k then some entry else entryOf key k entries := by
  unfold entryOf
  induction entries with
  | nil => by_cases hk : key entry = k <;> simp [replaceOrPush, hk]
  | cons old entries ih =>
      unfold replaceOrPush
      by_cases hkey : key old = key entry
      · rw [if_pos hkey]
        by_cases hk : key entry = k <;> simp [hk, hkey]
      · rw [if_neg hkey]
        by_cases hold : key old = k
        · have hk : key entry ≠ k := fun hk => hkey (hold.trans hk.symm)
          simp [hold, hk]
        · rw [List.find?_cons_of_neg (by simpa using hold),
            List.find?_cons_of_neg (by simpa using hold), ih]

/-- After several entries a key has the last of those that have it. -/
theorem entryOf_replaceOrPushAll (k : κ) (incoming entries : List α) :
    entryOf key k (replaceOrPushAll key incoming entries) =
      (entryOf key k incoming.reverse).or (entryOf key k entries) := by
  induction incoming generalizing entries with
  | nil => rfl
  | cons entry incoming ih =>
      rw [replaceOrPushAll, ih, entryOf_replaceOrPush, List.reverse_cons]
      unfold entryOf
      rw [List.find?_append, Option.or_assoc]
      congr 1
      by_cases hk : key entry = k <;> simp [hk]

theorem entryOf_isSome_iff (k : κ) (entries : List α) :
    (entryOf key k entries).isSome = true ↔ k ∈ entries.map key := by
  unfold entryOf
  simp [List.find?_isSome]

/-- Where no two entries share a key, the entry of a key is the one that has it. -/
theorem entryOf_eq_some_iff {entries : List α} (h : (entries.map key).Nodup) {k : κ} {entry : α} :
    entryOf key k entries = some entry ↔ entry ∈ entries ∧ key entry = k := by
  unfold entryOf
  induction entries with
  | nil => simp
  | cons old entries ih =>
      obtain ⟨hold, hrest⟩ := List.nodup_cons.mp h
      by_cases hk : key old = k
      · rw [List.find?_cons_of_pos (by simpa using hk), Option.some.injEq, List.mem_cons]
        constructor
        · rintro rfl
          exact ⟨.inl rfl, hk⟩
        · rintro ⟨rfl | mem, hentry⟩
          · rfl
          · exact absurd (hk.trans hentry.symm ▸ List.mem_map_of_mem mem) hold
      · rw [List.find?_cons_of_neg (by simpa using hk), ih hrest, List.mem_cons]
        constructor
        · exact fun ⟨mem, hentry⟩ => ⟨.inr mem, hentry⟩
        · rintro ⟨rfl | mem, hentry⟩
          · exact absurd hentry hk
          · exact ⟨mem, hentry⟩

theorem entryOf_reverse {entries : List α} (h : (entries.map key).Nodup) (k : κ) :
    entryOf key k entries.reverse = entryOf key k entries := by
  have hreverse : (entries.reverse.map key).Nodup := by
    rw [List.map_reverse, List.nodup_reverse]
    exact h
  apply Option.ext
  intro entry
  rw [entryOf_eq_some_iff key hreverse, entryOf_eq_some_iff key h, List.mem_reverse]

/-! ## The first of each key -/

/-- An entry goes to the end, unless its key is there. -/
def pushNew (entries : List α) (entry : α) : List α :=
  if entries.any fun old => key old == key entry then entries else entries ++ [entry]

/-- One entry after the other. -/
def pushAllNew (incoming entries : List α) : List α := incoming.foldl (pushNew key) entries

theorem pushNew_eq (entries : List α) (entry : α) :
    pushNew key entries entry =
      if key entry ∈ entries.map key then entries else entries ++ [entry] := by
  unfold pushNew
  have hany : (entries.any fun old => key old == key entry) = true ↔ key entry ∈ entries.map key := by
    simp [List.any_eq_true]
  simp only [hany]

theorem nodup_keys_pushNew {entries : List α} (entry : α) (h : (entries.map key).Nodup) :
    ((pushNew key entries entry).map key).Nodup := by
  rw [pushNew_eq]
  split
  · exact h
  · rename_i hnew
    rw [List.map_append, List.map_singleton]
    refine List.nodup_append'.mpr ⟨h, List.nodup_singleton _, ?_⟩
    rw [List.disjoint_singleton]
    exact hnew

theorem entryOf_pushNew (k : κ) (entries : List α) (entry : α) :
    entryOf key k (pushNew key entries entry) =
      (entryOf key k entries).or (entryOf key k [entry]) := by
  rw [pushNew_eq]
  split
  · rename_i hold
    by_cases hk : key entry = k
    · have hsome := (entryOf_isSome_iff key (key entry) entries).mpr hold
      rw [hk] at hsome
      obtain ⟨old, hold⟩ := Option.isSome_iff_exists.mp hsome
      rw [hold, Option.some_or]
    · simp [entryOf, hk]
  · rw [entryOf, List.find?_append]
    rfl

theorem nodup_keys_pushAllNew (incoming : List α) {entries : List α}
    (h : (entries.map key).Nodup) : ((pushAllNew key incoming entries).map key).Nodup := by
  induction incoming generalizing entries with
  | nil => exact h
  | cons entry incoming ih => exact ih (nodup_keys_pushNew key entry h)

/-- After several entries a key has what it had, or the first of those that have it. -/
theorem entryOf_pushAllNew (k : κ) (incoming entries : List α) :
    entryOf key k (pushAllNew key incoming entries) =
      (entryOf key k entries).or (entryOf key k incoming) := by
  induction incoming generalizing entries with
  | nil => exact Option.or_none.symm
  | cons entry incoming ih =>
      have hcons : entryOf key k (entry :: incoming) =
          (entryOf key k [entry]).or (entryOf key k incoming) := by
        rw [← List.singleton_append, entryOf, List.find?_append]
        rfl
      rw [hcons, ← Option.or_assoc, ← entryOf_pushNew]
      exact ih _

end

end FarBus.Foundation
