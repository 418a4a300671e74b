/-
  Foundation/Table.lean --- lookups in a sorted table, with equality of keys, and in a list
  of which one entry was replaced.

  The library states the former with `compare k a = .eq`.  Where the order of the keys is
  that of equality, the case split is on the keys themselves.
-/
import Mathlib.Data.List.Basic

set_option autoImplicit false

namespace FarBus.Foundation

universe u v

section

variable {κ : Type u} {β : Type v} [Ord κ] [Std.TransOrd κ]

theorem mem_iff_lookup (table : Std.ExtTreeMap κ β) (key : κ) :
    key ∈ table ↔ ∃ value, table[key]? = some value := by
  rw [← Std.ExtTreeMap.isSome_getElem?_iff_mem, Option.isSome_iff_exists]

theorem not_mem_iff_lookup (table : Std.ExtTreeMap κ β) (key : κ) :
    key ∉ table ↔ table[key]? = none := by
  rw [mem_iff_lookup, Option.eq_none_iff_forall_ne_some]
  exact not_exists

theorem values_eq_foldr (table : Std.ExtTreeMap κ β) :
    table.values = table.foldr (fun _ value values => value :: values) [] := by
  obtain ⟨inner⟩ := table
  induction inner using Std.ExtDTreeMap.inductionOn with
  | mk tree => rfl

theorem values_eq_map (table : Std.ExtTreeMap κ β) :
    table.values = table.toList.map Prod.snd := by
  rw [values_eq_foldr, Std.ExtTreeMap.foldr_eq_foldr_toList]
  induction table.toList with
  | nil => rfl
  | cons entry entries ih => rw [List.foldr_cons, ih, List.map_cons]

variable [Std.LawfulEqOrd κ]

theorem mem_values_iff (table : Std.ExtTreeMap κ β) (value : β) :
    value ∈ table.values ↔ ∃ key : κ, table[key]? = some value := by
  rw [values_eq_map, List.mem_map]
  constructor
  · intro h
    obtain ⟨⟨key, value'⟩, hentry, rfl⟩ := h
    exact ⟨key, Std.ExtTreeMap.mem_toList_iff_getElem?_eq_some.mp hentry⟩
  · intro h
    obtain ⟨key, hlookup⟩ := h
    exact ⟨(key, value), Std.ExtTreeMap.mem_toList_iff_getElem?_eq_some.mpr hlookup, rfl⟩

/-- Where every value tells the key it is stored under, no two values tell the same. -/
theorem nodup_map_values (table : Std.ExtTreeMap κ β) (key : β → κ)
    (hkey : ∀ (k : κ) value, table[k]? = some value → key value = k) :
    (table.values.map key).Nodup := by
  have hkeys : table.values.map key = table.toList.map Prod.fst := by
    rw [values_eq_map, List.map_map]
    apply List.map_congr_left
    intro entry hentry
    exact hkey _ _ (Std.ExtTreeMap.mem_toList_iff_getElem?_eq_some.mp hentry)
  rw [hkeys, List.Nodup, List.pairwise_map]
  apply Std.ExtTreeMap.distinct_keys_toList.imp
  intro a b hne heq
  exact hne (by rw [heq]; exact Std.ReflOrd.compare_self)

variable [DecidableEq κ]

theorem lookup_insert (table : Std.ExtTreeMap κ β) (key : κ) (value : β) (other : κ) :
    (table.insert key value)[other]? = if other = key then some value else table[other]? := by
  rw [Std.ExtTreeMap.getElem?_insert]
  by_cases h : other = key
  · subst h
    simp
  · rw [if_neg h, if_neg]
    intro hcompare
    exact h (Std.LawfulEqOrd.eq_of_compare hcompare).symm

theorem lookup_erase (table : Std.ExtTreeMap κ β) (key other : κ) :
    (table.erase key)[other]? = if other = key then none else table[other]? := by
  rw [Std.ExtTreeMap.getElem?_erase]
  by_cases h : other = key
  · subst h
    simp
  · rw [if_neg h, if_neg]
    intro hcompare
    exact h (Std.LawfulEqOrd.eq_of_compare hcompare).symm

end

section

variable {α : Type u} {items : List α} {index : Nat} {old : α}

theorem lookup_set_self (found : items[index]? = some old) (new : α) :
    (items.set index new)[index]? = some new :=
  List.getElem?_set_self (List.getElem?_eq_some_iff.mp found).1

/-- An entry after the replacement is the new one, or was there before. -/
theorem lookup_set_cases {other : Nat} {new item : α} (found : items[index]? = some old)
    (found' : (items.set index new)[other]? = some item) :
    index = other ∧ items[other]? = some old ∧ item = new ∨
      index ≠ other ∧ items[other]? = some item := by
  by_cases hindex : index = other
  · subst hindex
    rw [lookup_set_self found, Option.some.injEq] at found'
    exact .inl ⟨rfl, found, found'.symm⟩
  · rw [List.getElem?_set_ne hindex] at found'
    exact .inr ⟨hindex, found'⟩

end

end FarBus.Foundation
